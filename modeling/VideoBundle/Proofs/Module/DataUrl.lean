import VideoBundle.Module.DataUrl
import VideoBundle.Proofs.Bytes.RoundTrip
import VideoBundle.Proofs.Bytes.Written

/-!
# What data URLs carry

The header of a data URL ends at its first comma, which no media type holds, so that the contents are
found again behind it.

Main results:

- `contents?_ofBytes`: the URL of bytes carries these bytes.
- `contents?_ofSource`: the URL of an asset carries the bytes of its source, unless the source is a URL
  itself.
- `ofSource_decodes`: how the URL of an asset is written, and that its payload decodes to the source.
-/

namespace VideoBundle
namespace DataUrl

/-- A URL whose header holds no comma carries what is written behind the header. -/
theorem contents?_of_header {header payload : List Char} (h : ',' ∉ header) :
    contents? (String.ofList ("data:".toList ++ (header ++ ',' :: payload))) =
      if ";base64".toList.isSuffixOf header then Base64.decode? payload
      else Percent.decode? payload := by
  have hlead : Text.afterLead? "data:".toList ("data:".toList ++ (header ++ ',' :: payload)) =
      some (header ++ ',' :: payload) := Text.afterLead?_eq_some_iff.2 rfl
  have hheader : ∀ c ∈ header, (c != ',') = true := by
    intro c hc
    simpa using fun heq : c = ',' => h (heq ▸ hc)
  have htake : (header ++ ',' :: payload).takeWhile (· != ',') = header := by
    rw [List.takeWhile_append_of_pos hheader]
    simp
  have hdrop : (header ++ ',' :: payload).dropWhile (· != ',') = ',' :: payload := by
    rw [List.dropWhile_append_of_pos hheader]
    simp
  simp only [contents?, String.toList_ofList, hlead, Option.bind_eq_bind, Option.bind_some, htake,
    hdrop]

/-- The URL of bytes carries these bytes. -/
theorem contents?_ofBytes {mediaType : String} (h : ',' ∉ mediaType.toList) (bytes : List UInt8) :
    contents? (ofBytes mediaType bytes) = some bytes := by
  have hurl : ofBytes mediaType bytes = String.ofList ("data:".toList ++
      ((mediaType.toList ++ ";base64".toList) ++ ',' :: Base64.encode bytes)) := by
    apply String.toList_inj.1
    simp [ofBytes]
  have hcomma : ',' ∉ mediaType.toList ++ ";base64".toList := by
    rw [List.mem_append, not_or]
    exact ⟨h, by decide⟩
  have hsuffix : ";base64".toList.isSuffixOf (mediaType.toList ++ ";base64".toList) = true :=
    List.isSuffixOf_iff_suffix.2 (List.suffix_append _ _)
  rw [hurl, contents?_of_header hcomma, if_pos hsuffix, Base64.decode?_encode]

/-- The URL of a text with percent signs carries the bytes of the text. -/
theorem contents?_ofText {mediaType : String} (h : ',' ∉ mediaType.toList)
    (hbase : ";base64".toList.isSuffixOf mediaType.toList = false) (source : String) :
    contents? (ofText mediaType source) = some (Utf8.encode source.toList) := by
  have hurl : ofText mediaType source = String.ofList ("data:".toList ++
      (mediaType.toList ++ ',' :: Percent.encodeText source.toList)) := by
    apply String.toList_inj.1
    simp [ofText]
  rw [hurl, contents?_of_header h, hbase, if_neg (by decide), Percent.decode?_encodeText]

/-! ## Media types -/

/-- What a table with a standard answer gives has every property of its answers. -/
theorem forall_getD_lookup {table : List (String × String)} {standard : String} {P : String → Prop}
    (h : ∀ entry ∈ table, P entry.2) (hstandard : P standard) (key : String) :
    P ((table.lookup key).getD standard) := by
  induction table with
  | nil => exact hstandard
  | cons entry table ih =>
      rw [List.forall_mem_cons] at h
      rw [List.lookup_cons]
      split
      · exact h.1
      · exact ih h.2

/-- No media type holds the comma that ends the header. -/
theorem comma_not_mem_mediaType (path : String) : ',' ∉ (mediaType path).toList :=
  forall_getD_lookup (P := fun type => ',' ∉ type.toList) (by decide) (by decide) _

/-! ## Assets -/

/-- The URL of bytes is a data URL. -/
theorem isDataUrl_ofBytes (mediaType : String) (bytes : List UInt8) :
    isDataUrl (ofBytes mediaType bytes) = true := by
  rw [isDataUrl, Option.isSome_iff_exists]
  refine ⟨mediaType.toList ++ (";base64,".toList ++ Base64.encode bytes), ?_⟩
  rw [Text.afterLead?_eq_some_iff]
  simp [ofBytes]

/-- A source that is a data URL is taken as it is. -/
theorem ofSource_of_isDataUrl {source : String} (h : isDataUrl source = true) (path : String) :
    ofSource path source = source := by
  rw [ofSource, if_pos h]

/-- The URL of an asset carries the bytes of its source, unless the source is a URL itself. -/
theorem contents?_ofSource {source : String} (h : isDataUrl source = false) (path : String) :
    contents? (ofSource path source) = some (Utf8.encode source.toList) := by
  rw [ofSource, h, if_neg (by decide)]
  split
  · rename_i hvector
    rw [hvector]
    exact contents?_ofText (by decide) (by decide) source
  · exact contents?_ofBytes (comma_not_mem_mediaType path) (Utf8.encode source.toList)

/-! ## Header and payload -/

/-- A payload behind a header, which names the media type and says whether the payload is in Base64. -/
def withPayload (mediaType : String) (inBase64 : Bool) (payload : List Char) : String :=
  "data:" ++ mediaType ++ (if inBase64 then ";base64" else "") ++ "," ++ String.ofList payload

/-- A URL of bytes is a header and a payload in Base64. -/
theorem ofBytes_eq (mediaType : String) (bytes : List UInt8) :
    ofBytes mediaType bytes = withPayload mediaType true (Base64.encode bytes) := by
  apply String.toList_inj.1
  simp [ofBytes, withPayload]

/-- A URL of a text is a header and a payload in percent encoding. -/
theorem ofText_eq (mediaType source : String) :
    ofText mediaType source = withPayload mediaType false (Percent.encodeText source.toList) := by
  apply String.toList_inj.1
  simp [ofText, withPayload]

/-- A source that is no URL becomes one with its bytes as payload. -/
theorem exists_withPayload_eq {source : String} (h : isDataUrl source = false) (path : String) :
    ∃ inBase64 payload,
      ofSource path source = withPayload (mediaType path) inBase64 payload ∧
        (inBase64 = true ↔ mediaType path ≠ "image/svg+xml") ∧
        (∀ c ∈ payload, if inBase64 then Base64.IsWritten c else Percent.IsWritten c) ∧
        (if inBase64 then Base64.decode? payload else Percent.decode? payload) =
          some (Utf8.encode source.toList) := by
  rw [ofSource, h, if_neg (by decide)]
  by_cases hvector : mediaType path = "image/svg+xml"
  · refine ⟨false, Percent.encodeText source.toList, ?_, by simp [hvector], ?_, ?_⟩
    · rw [if_pos hvector, ofText_eq]
    · exact Percent.isWritten_of_mem_encodeText
    · exact Percent.decode?_encodeText source.toList
  · refine ⟨true, Base64.encode (Utf8.encode source.toList), ?_, by simp [hvector], ?_, ?_⟩
    · rw [if_neg hvector, ofBytes_eq]
    · exact Base64.isWritten_of_mem_encode
    · exact Base64.decode?_encode (Utf8.encode source.toList)

/-- A data URL is told by its first five characters. -/
theorem isDataUrl_iff {source : String} :
    isDataUrl source = true ↔ "data:".toList <+: source.toList := by
  rw [isDataUrl, Option.isSome_iff_exists]
  exact exists_congr fun rest => Text.afterLead?_eq_some_iff.trans eq_comm

theorem isDataUrl_withPayload (mediaType : String) (inBase64 : Bool) (payload : List Char) :
    isDataUrl (withPayload mediaType inBase64 payload) = true := by
  rw [isDataUrl_iff, withPayload, String.append_assoc, String.append_assoc, String.append_assoc,
    String.toList_append]
  exact List.prefix_append _ _

/-- What stands for an asset is a URL, whatever the source. -/
theorem isDataUrl_ofSource (path source : String) : isDataUrl (ofSource path source) = true := by
  cases h : isDataUrl source with
  | true => rwa [ofSource_of_isDataUrl h]
  | false =>
      obtain ⟨inBase64, payload, heq, _⟩ := exists_withPayload_eq h path
      rw [heq, isDataUrl_withPayload]

/-- The URL of an asset names its media type and carries a payload in one of two alphabets, which decodes
as the header says to the bytes of the source.  A source that is a URL is taken as it is, so that a URL
that was made once is not wrapped again. -/
theorem ofSource_decodes (path source : String) :
    (¬"data:".toList <+: source.toList →
        (∃ inBase64 payload,
          ofSource path source = withPayload (mediaType path) inBase64 payload ∧
            (inBase64 = true ↔ mediaType path ≠ "image/svg+xml") ∧
            (∀ c ∈ payload, if inBase64 then Base64.IsWritten c else Percent.IsWritten c) ∧
            (if inBase64 then Base64.decode? payload else Percent.decode? payload) =
              some source.toUTF8.data.toList) ∧
          contents? (ofSource path source) = some source.toUTF8.data.toList) ∧
      ("data:".toList <+: source.toList → ofSource path source = source) ∧
      ∀ other, ofSource other (ofSource path source) = ofSource path source := by
  refine ⟨fun h => ?fresh, fun h => ofSource_of_isDataUrl (isDataUrl_iff.2 h) path, fun other =>
    ofSource_of_isDataUrl (isDataUrl_ofSource path source) other⟩
  case fresh =>
    rw [← isDataUrl_iff, Bool.not_eq_true] at h
    rw [← Utf8.encode_toList]
    exact ⟨exists_withPayload_eq h path, contents?_ofSource h path⟩

/-- A text with characters of one to four bytes, one byte short of a full last group. -/
def mixedText : String := "é€😀%!"

/-- As the source of a vector image and as that of a file of an unknown kind. -/
theorem ofSource_decodes_mixedText :
    ¬"data:".toList <+: mixedText.toList ∧
      ofSource "/logo.SVG" mixedText = "data:image/svg+xml,%C3%A9%E2%82%AC%F0%9F%98%80%25%21" ∧
      contents? (ofSource "/logo.SVG" mixedText) = some mixedText.toUTF8.data.toList ∧
      ofSource "/notes" mixedText = "data:application/octet-stream;base64,w6nigqzwn5iAJSE=" ∧
      contents? (ofSource "/notes" mixedText) = some mixedText.toUTF8.data.toList := by
  have hfresh : ¬"data:".toList <+: mixedText.toList := by decide +kernel
  have hvector := ((ofSource_decodes "/logo.SVG" mixedText).1 hfresh).2
  have hunknown := ((ofSource_decodes "/notes" mixedText).1 hfresh).2
  exact ⟨hfresh, by decide +kernel, hvector, by decide +kernel, hunknown⟩

end DataUrl
end VideoBundle
