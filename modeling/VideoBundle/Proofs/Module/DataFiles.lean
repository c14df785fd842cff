import VideoBundle.Compile.Walk
import VideoBundle.Proofs.Json.Ascii
import VideoBundle.Proofs.Json.Points

/-!
# Data files

The module of a data file hands out the value that the file writes.  The code does not repeat the text of
the file: the value is read and written anew, so that no line break, no character outside ASCII and no
second entry under one key is left.

A file can hold halves of surrogate pairs.  A lead and a trail that stand alone side by side are written
as the pair of one character and read back as it.  All other values are kept.

Main results:

- `joined_of_readPoints_ofString`: what is read from a string has no such halves side by side.
- `json_of_readPoints`: the code for a text that is read, and when it keeps the value.
- `json_keeps_value_iff`: which values the code hands out, and that a file without a value is reported.
-/

namespace VideoBundle

/-- Whether no text in a value has a lead that stands alone directly in front of a trail that stands
alone. -/
def Value.Joined (v : Value PointText) : Prop := ∀ t ∈ v.texts, t.Joined

instance (v : Value PointText) : Decidable v.Joined := List.decidableBAll _ v.texts

namespace ModuleSource

/-- What is read from a string is joined. -/
theorem joined_of_readPoints_ofString {s : String} {v : Value PointText}
    (h : Json.readPoints (.ofString s) = .ok v) : v.Joined := by
  rw [Json.readPoints_ofString] at h
  obtain ⟨x, -, rfl⟩ := map_eq_ok_iff.1 h
  intro t ht
  rw [Value.texts_mapText] at ht
  obtain ⟨us, -, rfl⟩ := List.mem_map.1 ht
  exact UnitText.joined_points us

/-- A joined value is read back from the text of its units. -/
theorem readPoints_write_units {source : PointText} {v : Value PointText}
    (h : Json.readPoints source = .ok v) (hv : v.Joined) :
    Json.readPoints (.ofString (String.ofList (Json.write (v.mapText PointText.units)))) = .ok v := by
  have hself : (v.mapText PointText.units).mapText UnitText.points = v := by
    rw [Value.mapText_mapText]
    exact Value.mapText_eq_self_of_texts fun t ht => PointText.points_units_iff.2 (hv t ht)
  have hread := Json.restorable_of_readWith h
  have hrestorable : Json.Restorable (v.mapText PointText.units) :=
    ⟨(Value.isWritable_mapText _ v).trans hread.writable,
      .of_mapText (hself.symm ▸ hread.distinctKeys)⟩
  rw [Json.readPoints_ofString, String.toList_ofList, Json.read_write hrestorable, Except.map, hself]

/-- The code for a text that is read writes a value on one line of ASCII.  It is the value that was read,
exactly when that is joined. -/
theorem json_of_readPoints {source : PointText} {v : Value PointText}
    (h : Json.readPoints source = .ok v) :
    ∃ text : String, json source = .ok ("module.exports = " ++ text ++ ";") ∧
      Json.IsAscii text.toList ∧ (Json.readPoints (.ofString text) = .ok v ↔ v.Joined) := by
  refine ⟨String.ofList (Json.write (v.mapText PointText.units)), ?code, ?ascii, ?again⟩
  case code =>
    rw [json, h]
    rfl
  case ascii =>
    rw [String.toList_ofList]
    exact Json.isAscii_write _
  case again => exact ⟨joined_of_readPoints_ofString, readPoints_write_units h⟩

/-- There is no code for a text that is not read. -/
theorem json_of_not_read {source : PointText} {e : Json.Error}
    (h : Json.readPoints source = .error e) : json source = .error e := by
  rw [json, h]
  rfl

/-- The module of a data file hands out a text on one line of ASCII.  It is read as the value of the file
exactly when no text of that has two halves of a pair that stand alone side by side, which no file without
such halves has.  A file that is not read has no module, and the error names the file. -/
theorem json_keeps_value_iff (path : String) (source : PointText) :
    (∀ v, Json.readPoints source = .ok v →
        (∃ text : String, json source = .ok ("module.exports = " ++ text ++ ";") ∧
          Json.IsAscii text.toList ∧ (Json.readPoints (.ofString text) = .ok v ↔ v.Joined)) ∧
        ∀ s, source = .ofString s → v.Joined) ∧
      (∀ e, Json.readPoints source = .error e →
        json source = .error e ∧
          path.toList <+: (CompileError.malformedJson path e).message.toList) ∧
      ∀ p : Walk.Project, p.sources.find? path = some source → Path.loader path = .json →
        Walk.buildFile p path =
          match json source with
          | .ok code => .ok (.plain code, [])
          | .error e => .error (.error (.malformedJson path e)) := by
  refine ⟨fun v h => ⟨json_of_readPoints h, ?whole⟩, fun e h => ⟨json_of_not_read h, ?named⟩, ?built⟩
  case whole =>
    rintro s rfl
    exact joined_of_readPoints_ofString h
  case named =>
    rw [CompileError.message, String.append_assoc, String.toList_append]
    exact List.prefix_append _ _
  case built =>
    intro p hsource hloader
    cases hjson : json source with
    | ok code => simp only [Walk.buildFile, hsource, hloader, hjson]
    | error e => simp only [Walk.buildFile, hsource, hloader, hjson]

/-- A lead that stands alone. -/
def loneLead : Half := ⟨0xD83D, rfl⟩

/-- A trail that stands alone. -/
def loneTrail : Half := ⟨0xDE00, rfl⟩

/-- A text in which an escape writes a lead, in front of a trail that the text holds itself. -/
def splitPair : PointText :=
  ['"', '\\', 'u', 'd', '8', '3', 'd'].map .char ++ [.half loneTrail, .char '"']

/-- Its value has both halves, but a text in ASCII that has them side by side has the character that they
make as a pair. -/
theorem not_json_keeps_value :
    ¬∀ source v, Json.readPoints source = .ok v →
      ∃ text : String, json source = .ok ("module.exports = " ++ text ++ ";") ∧
        Json.IsAscii text.toList ∧ Json.readPoints (.ofString text) = .ok v := by
  intro h
  have hread : Json.readPoints splitPair = .ok (.text [.half loneLead, .half loneTrail]) := rfl
  obtain ⟨text, -, -, hagain⟩ := h _ _ hread
  exact absurd (joined_of_readPoints_ofString hagain) (by decide)

/-- A text with two entries under one key, a trail in front of an escape that writes a lead, a line break
and a number that is none. -/
def crowdedText : PointText :=
  ['{', '"', 'a', '"', ':', '1', '.', '5', '0', ',', '\n', '"', 'b', '"', ':', '[', '"'].map .char ++
    .half loneTrail ::
      ['\\', 'u', 'd', '8', '3', 'd', '"', ',', 'N', 'a', 'N', ']', ',', '"', 'a', '"', ':', '-', '0',
        '}'].map .char

/-- The value that it writes. -/
def crowdedValue : Value PointText :=
  .object
    [([.char 'a'], .number (.int 0)),
     ([.char 'b'], .list [.text [.half loneTrail, .half loneLead], .number (.float .nan)])]

/-- A text that is no value. -/
def keylessText : PointText := ['{', 'n', '}'].map .char

/-- A project of one data file. -/
def dataProject (source : PointText) : Walk.Project where
  sources := OrderedMap.ofList [("/data.json", source)]
  entry := "/data.json"
  bundler := ⟨fun source _ _ => .ok (.finished source), fun _ _ => .ok ⟨"", [], []⟩⟩
  table := ExportTable.known

/-- The value of a file is kept, with halves in the order in which no pair has them, and a file without
a value is reported. -/
theorem json_keeps_value_crowded :
    (∃ text : String, Json.readPoints (.ofString text) = .ok crowdedValue ∧
        Walk.buildFile (dataProject crowdedText) "/data.json" =
          .ok (.plain ("module.exports = " ++ text ++ ";"), [])) ∧
      ∃ e, Json.readPoints keylessText = .error e ∧
        Walk.buildFile (dataProject keylessText) "/data.json" =
          .error (.error (.malformedJson "/data.json" e)) := by
  have hloader : Path.loader "/data.json" = .json := by decide +kernel
  have hfind : ∀ source, (dataProject source).sources.find? "/data.json" = some source := by
    intro source
    simp [dataProject, OrderedMap.ofList, OrderedMap.find?, collapseEntries, insertEntry, lookupEntry]
  have hcrowded : Json.readPoints crowdedText = .ok crowdedValue := rfl
  have hkeyless : ∃ e, Json.readPoints keylessText = .error e := ⟨_, rfl⟩
  constructor
  · obtain ⟨hcode, -, hbuilt⟩ := json_keeps_value_iff "/data.json" crowdedText
    obtain ⟨⟨text, hjson, -, hagain⟩, -⟩ := hcode _ hcrowded
    refine ⟨text, hagain.2 (by decide), ?_⟩
    rw [hbuilt _ (hfind _) hloader, hjson]
  · obtain ⟨-, herror, hbuilt⟩ := json_keeps_value_iff "/data.json" keylessText
    obtain ⟨e, hread⟩ := hkeyless
    refine ⟨e, hread, ?_⟩
    rw [hbuilt _ (hfind _) hloader, (herror e hread).1]

end ModuleSource
end VideoBundle
