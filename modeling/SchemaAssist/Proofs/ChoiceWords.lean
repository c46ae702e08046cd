/-
  Choices keep their source text.

  A schema file that lists the choices of a property as plain words gives that property exactly
  these words, in order and with repetitions, whatever number, truth value or null they look like;
  and they are what the property is completed with (`choices_kept`).

  The file is followed through decoding, which leaves ASCII as it is, through `Yaml.load_written`,
  and through the building of the schema tree.
-/
import SchemaAssist.Proofs.SessionRuns
import SchemaAssist.Proofs.YamlOutlineNodes

namespace SchemaAssist

/-! ### Reading an ASCII file -/

namespace Text

theorem toList_loop (bytes : ByteArray) (i : Nat) (done : List UInt8) :
    ByteArray.toList.loop bytes i done = done.reverse ++ bytes.data.toList.drop i := by
  fun_induction ByteArray.toList.loop bytes i done with
  | case1 i done h ih =>
    have hi : i < bytes.data.toList.length := by simpa using h
    rw [ih, List.drop_eq_getElem_cons hi]
    simp [ByteArray.get!, h]
  | case2 i done h =>
    have hi : bytes.data.toList.length ≤ i := by simpa using Nat.le_of_not_lt h
    rw [List.drop_eq_nil_of_le hi]
    simp

theorem utf8EncodeChar_ascii {c : Char} (h : c.toNat < 0x80) :
    String.utf8EncodeChar c = [c.val.toUInt8] := by
  apply String.utf8EncodeChar_eq_singleton
  rw [Char.utf8Size_eq_one_iff, UInt32.le_iff_toNat_le]
  exact Nat.le_of_lt_succ h

/-- An ASCII text is encoded by the codes of its characters. -/
theorem toUTF8_ascii {chars : List Char} (h : ∀ c ∈ chars, c.toNat < 0x80) :
    (String.ofList chars).toUTF8.toList = chars.map fun c => c.val.toUInt8 := by
  have hencode : chars.flatMap String.utf8EncodeChar = chars.map fun c => c.val.toUInt8 := by
    induction chars with
    | nil => rfl
    | cons c chars ih =>
      obtain ⟨hc, hchars⟩ := List.forall_mem_cons.mp h
      rw [List.flatMap_cons, utf8EncodeChar_ascii hc, ih hchars]
      rfl
  rw [String.toUTF8_eq_toByteArray, String.toByteArray_ofList, ByteArray.toList, toList_loop,
    List.utf8Encode,
    List.toList_data_toByteArray, hencode]
  rfl

theorem decodeFrom_ascii {chars : List Char} (h : ∀ c ∈ chars, c.toNat < 0x80) (offset : Nat) :
    decodeFrom offset 0 (chars.map fun c => c.val.toUInt8) = .ok chars := by
  induction chars generalizing offset with
  | nil => rfl
  | cons c chars ih =>
    obtain ⟨hc, hchars⟩ := List.forall_mem_cons.mp h
    have hcode : c.val.toUInt8.toNat = c.toNat := by
      change c.toNat % 256 = c.toNat
      omega
    have hlead : leadByte c.val.toUInt8.toNat = some (0, 0x80, 0xBF, c.toNat) := by
      rw [hcode, leadByte, if_pos hc]
    rw [List.map_cons, decodeFrom, hlead]
    simp only [continuation, ih hchars, Char.ofNat_toNat]
    rfl

theorem decodePieces_ascii (fuel : Nat) {chars : List Char} (h : ∀ c ∈ chars, c.toNat < 0x80)
    (hfuel : chars.length < fuel) :
    decodePieces fuel [] (chars.map fun c => c.val.toUInt8) = (chars, none) := by
  induction fuel generalizing chars with
  | zero => cases hfuel
  | succ fuel ih =>
    cases chars with
    | nil => rfl
    | cons c chars =>
      generalize hpiece : (c :: chars).take pieceSize = piece
      generalize hrest : (c :: chars).drop pieceSize = rest
      have hsplit : piece ++ rest = c :: chars := by
        rw [← hpiece, ← hrest, List.take_append_drop]
      have hdecoded : decodePiece (piece.map fun c => c.val.toUInt8) = .ok (piece, []) := by
        have hascii : ∀ c ∈ piece, c.toNat < 0x80 :=
          fun c hc => h c (hsplit ▸ List.mem_append_left rest hc)
        rw [decodePiece, decodeUtf8, decodeFrom_ascii hascii]
      have hmore : decodePieces fuel [] (rest.map fun c => c.val.toUInt8) = (rest, none) := by
        refine ih (fun c hc => h c (hsplit ▸ List.mem_append_right piece hc)) ?_
        rw [← hrest, List.length_drop]
        simp only [List.length_cons, pieceSize] at hfuel ⊢
        omega
      have htake : (c.val.toUInt8 :: chars.map fun c => c.val.toUInt8).take pieceSize =
          piece.map fun c => c.val.toUInt8 := by
        rw [← hpiece, List.map_take]
        rfl
      have hdrop : (c.val.toUInt8 :: chars.map fun c => c.val.toUInt8).drop pieceSize =
          rest.map fun c => c.val.toUInt8 := by
        rw [← hrest, List.map_drop]
        rfl
      rw [List.map_cons, decodePieces, List.nil_append, htake, hdrop, hdecoded, ← hsplit]
      simp only [hmore]

theorem decodeStream_ascii {chars : List Char} (h : ∀ c ∈ chars, c.toNat < 0x80) :
    decodeStream (chars.map fun c => c.val.toUInt8) = (chars, none) := by
  rw [decodeStream]
  exact decodePieces_ascii _ h (by simp)

end Text

/-! ### The outline of a choice -/

namespace Yaml

theorem exists_words {words : List String}
    (h : ∀ w ∈ words, w ≠ "" ∧ ∀ c ∈ w.toList, isWordChar c = true) :
    ∃ ws : List Word, ws.map Word.text = words := by
  induction words with
  | nil => exact ⟨[], rfl⟩
  | cons w words ih =>
    obtain ⟨⟨hnonempty, hplain⟩, hwords⟩ := List.forall_mem_cons.mp h
    obtain ⟨ws, rfl⟩ := ih hwords
    refine ⟨⟨w.toList, by simpa using hnonempty, hplain⟩ :: ws, ?_⟩
    rw [List.map_cons, Word.text, String.ofList_toList]

theorem listed_eq_intercalate (w : Word) (ws : List Word) :
    listed (w :: ws) = [',', ' '].intercalate ((w :: ws).map Word.chars) := by
  induction ws generalizing w with
  | nil => simp [listed]
  | cons next ws ih =>
    rw [List.map_cons, List.map_cons, List.intercalate_cons_cons, ← List.map_cons, ← ih next]
    simp [listed]

/-- Words joined with commas, inside of a text.  The ends of the text are variables here, since
unifying a literal with the joined words unfolds both. -/
theorem toList_joined (front back : String) (ws : List Word) :
    (front ++ ", ".intercalate (ws.map Word.text) ++ back).toList =
      front.toList ++ (listed ws ++ back.toList) := by
  have hchars : (ws.map Word.text).map String.toList = ws.map Word.chars := by
    simp [Word.text]
  rw [String.toList_append, String.toList_append, String.toList_intercalate, hchars,
    List.append_assoc]
  cases ws with
  | nil => rfl
  | cons w ws =>
    rw [listed_eq_intercalate]
    rfl

def Label.ofString (name : String)
    (h : name ≠ "" ∧ name.toList.all isWordChar = true ∧ name.length ≤ 1024) : Label :=
  ⟨⟨name.toList, by simpa using h.1, List.all_eq_true.mp h.2.1⟩, h.2.2⟩

theorem Label.text_ofString (name : String) (h) :
    (Label.ofString name h).text = name := String.ofList_toList

end Yaml

namespace Schema

open Yaml (Block Label Outline Value Word)

/-- A schema file with one property, which lists its choices. -/
def choiceDocument (words : List String) : String :=
  "spec:\n  properties:\n    Public:\n      type: string\n      enum: [" ++
    ", ".intercalate words ++ "]\n"

/-- The same file as an outline. -/
def choiceOutline (ws : List Word) : Block :=
  let definition : Block :=
    .entry (.ofString "type" (by decide)) (.word (Label.ofString "string" (by decide)).toWord)
      (.last (.ofString "enum" (by decide)) (.words ws))
  .last (.ofString "spec" (by decide)) (.block
    (.last (.ofString "properties" (by decide)) (.block
      (.last (.ofString "Public" (by decide)) (.block definition)))))

/-- The tree of that file. -/
def choiceTree (words : List String) : Node :=
  .object ⟨"spec", "object", ""⟩ [.choice ⟨"Public", "string", ""⟩ words]

theorem toList_choiceDocument (ws : List Word) :
    (choiceDocument (ws.map Word.text)).toList = (choiceOutline ws).written 0 := by
  refine (Yaml.toList_joined _ _ ws).trans ?_
  simp [choiceOutline, Block.written, Outline.written, Label.ofString]

/-- What is read of that file. -/
def choiceData (words : List String) : Value :=
  .map [(.str "spec", .map [(.str "properties", .map [(.str "Public", .map
    [(.str "type", .str "string"), (.str "enum", .seq (words.map .str))])])])]

theorem extract_choiceOutline (ws : List Word) :
    extract (some ⟨(Outline.block (choiceOutline ws)).node, []⟩) =
      .ok (choiceData (ws.map Word.text)) := by
  generalize hdocument : (⟨(Outline.block (choiceOutline ws)).node, []⟩ : Yaml.Document) = d
  have hroot : d.root = (Outline.block (choiceOutline ws)).node := by rw [← hdocument]
  have hkey (name : String) : d.value (.scalar .str name) = .str name := rfl
  have hwords : ws.mapM (written ∘ fun w => .str w.text) =
      .ok (ws.map (Value.str ∘ Word.text)) := by
    clear hdocument hroot
    induction ws with
    | nil => rfl
    | cons w ws ih =>
      rw [List.mapM_cons, ih]
      rfl
  simp [extract, hroot, choiceOutline, choiceData, Yaml.Document.entries_block,
    Yaml.Document.value_word, Yaml.Document.items_words, Block.nodes, Label.text_ofString, hkey,
    Value.put, Value.sameKey, entriesAt?, nodeAt?, isKey, rootName, textEntry, written,
    extractProperties, extractDefinition, Value.writable, hwords, bind, Except.bind, pure,
    Except.pure]

theorem build_choiceData (words : List String) :
    build (choiceData words) = .ok ⟨choiceTree words, []⟩ := by
  have htext (s : String) : (Value.str s).text = s := rfl
  have htexts : Value.text ∘ Value.str = id := funext htext
  simp [choiceData, build, Value.get?, htext, htexts, definedNodes, choiceTree, rootName,
    textOf, collapse, place, assemble, skippedIn]

/-- A file that holds an outline is read as it was written. -/
theorem decode_outline {text : String} {b : Block} (htext : text.toList = b.written 0) :
    Yaml.decode text.toUTF8.toList = .ok (some ⟨(Outline.block b).node, []⟩) := by
  have hplain : ∀ c ∈ b.written 0, Yaml.isAllowed c = true ∧ c.toNat < 0x80 ∧ c ≠ '\r' :=
    fun c hc => Yaml.plain_of_isOutlineChar (b.outlineChars 0 c hc)
  have hbytes : text.toUTF8.toList = (b.written 0).map fun c => c.val.toUInt8 := by
    have hencoded := Text.toUTF8_ascii fun c hc => (hplain c hc).2.1
    rwa [← htext, String.ofList_toList, htext] at hencoded
  have hallowed : (b.written 0).findIdx? (!Yaml.isAllowed ·) = none := by
    rw [List.findIdx?_eq_none_iff]
    intro c hc
    rw [(hplain c hc).1]
    rfl
  have hstream : Yaml.Stream.ofBytes text.toUTF8.toList = ⟨b.written 0, none⟩ := by
    rw [hbytes, Yaml.Stream.ofBytes, Text.decodeStream_ascii fun c hc => (hplain c hc).2.1]
    simp only [Text.universalNewlines_of_not_mem fun c hc => (hplain c hc).2.2, Yaml.Stream.ofText,
      hallowed]
  rw [Yaml.decode, hstream, Yaml.load_written]

theorem load_choiceDocument (ws : List Word) {files : Files.Store} {path : Files.Path}
    (hfile : files.find path = .file (choiceDocument (ws.map Word.text)).toUTF8.toList) :
    Schema.load files (.file path) = .ok ⟨choiceTree (ws.map Word.text), []⟩ := by
  simp only [Schema.load, loadWith, hfile, ofBytes, decode_outline (toList_choiceDocument ws),
    ofDocument, extract_choiceOutline, build_choiceData]

end Schema

/-! ### Completing the choice -/

namespace Completion

open Document Files Schema

theorem offers_choice (words : List String) (trigger : Option String) :
    let doc := Document.ofText "Public:"
    offers (choiceTree words) doc (dispatched (choiceTree words) doc ⟨0, 7⟩ trigger) =
      words.map .value := by
  intro doc
  have hline : (0 : Int) < doc.lines.length := by decide
  have habove : leafAbove doc 0 (some (choiceTree words)) = false := rfl
  have hposition : dispatched (choiceTree words) doc ⟨0, 7⟩ trigger = ⟨0, 7⟩ := by
    rw [dispatched_eq (choiceTree words) doc (Int.le_refl 0) hline, habove, if_neg (by simp)]
    decide
  have hasked : Request.ofTyped (doc.textBefore ⟨0, 7⟩) = .values "Public" := by decide
  have hplace : (placement doc 0 (some (choiceTree words))).path = none := rfl
  have hblock : (placement doc 0 (some (choiceTree words))).block? = none := rfl
  have hfound : lookup? (some (choiceTree words)) ["Public"] =
      some (.choice ⟨"Public", "string", ""⟩ words) := rfl
  rw [hposition, offers_values hasked, valueSuggestions, hplace, hblock, if_neg (by simp),
    Option.getD_none,
    List.nil_append, hfound]

/-- A file that lists plain words as the choices of a property loads, its only property has exactly
these choices, and they are the values the property is completed with, before and after the file was
loaded. -/
theorem choices_kept (words : List String)
    (hwords : ∀ w ∈ words, w ≠ "" ∧ ∀ c ∈ w.toList, Yaml.isWordChar c = true) {files : Store}
    {path : Path} (hfile : files.find path = .file (choiceDocument words).toUTF8.toList) :
    let root : Node := .object ⟨"spec", "object", ""⟩ [.choice ⟨"Public", "string", ""⟩ words]
    Schema.load files (.file path) = .ok ⟨root, []⟩ ∧
      ∀ (e : Engine) (trigger : Option String),
        e.cache = .unloaded ∧ e.source = .file path ∨ e.cache = .loaded root →
          accepts e.triggers trigger = true →
          let items := (e.complete files "Public:" ⟨0, 7⟩ trigger).1
          items = words.map .value ∧ items.map (·.label) = words := by
  obtain ⟨ws, rfl⟩ := Yaml.exists_words hwords
  intro root
  have hload : Schema.load files (.file path) = .ok ⟨root, []⟩ := load_choiceDocument ws hfile
  refine ⟨hload, ?_⟩
  intro e trigger hcache haccepted items
  have hroot : (e.cacheInUse files).root? = some root := by
    rcases hcache with ⟨hunloaded, hsource⟩ | hloaded
    · rw [Engine.cacheInUse_of_unloaded files hunloaded, hsource, hload]
      rfl
    · rw [Engine.cacheInUse, hloaded]
      rfl
  have hitems : items = (ws.map Yaml.Word.text).map .value := by
    obtain ⟨records, hrun, -⟩ := Engine.complete_accepted e files "Public:" ⟨0, 7⟩ trigger haccepted
    simp only [items, hrun, hroot]
    exact offers_choice (ws.map Yaml.Word.text) trigger
  refine ⟨hitems, ?_⟩
  rw [hitems, List.map_map]
  exact List.map_id _

/-- Words that look like a truth value, null, a number or the end of a document. -/
theorem choices_kept_lookalikes :
    let words := ["Yes", "null", "010", "1.0", "1e3", "...", "Yes"]
    let files : Store :=
      ⟨["home"], [(["home", "m.yaml"], .file (choiceDocument words).toUTF8.toList)]⟩
    Schema.load files modelSource =
        .ok ⟨.object ⟨"spec", "object", ""⟩ [.choice ⟨"Public", "string", ""⟩ words], []⟩ ∧
      ((Engine.start modelSource []).complete files "Public:" ⟨0, 7⟩ none).1.map (·.label) =
        words := by
  intro words files
  have hall : (words.all fun w => w != "" && w.toList.all Yaml.isWordChar) = true := by decide
  have hwords : ∀ w ∈ words, w ≠ "" ∧ ∀ c ∈ w.toList, Yaml.isWordChar c = true := by
    intro w hw
    have hplain := List.all_eq_true.mp hall w hw
    simpa only [Bool.and_eq_true, bne_iff_ne, List.all_eq_true] using hplain
  have hfile : files.find ⟨"", ["m.yaml"]⟩ = .file (choiceDocument words).toUTF8.toList := rfl
  have hkept := choices_kept words hwords hfile
  exact ⟨hkept.1, (hkept.2 (Engine.start modelSource []) none (Or.inl ⟨rfl, rfl⟩) rfl).2⟩

end Completion

end SchemaAssist
