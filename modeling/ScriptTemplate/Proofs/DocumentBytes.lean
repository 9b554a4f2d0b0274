/-
# Bytes in documents

A data document gives the values of variables in hexadecimal.  They are looked at twice: when the
document is checked, and when the data are made of it.  In between they are texts.

* `Spells` says which texts are the digits of which bytes: pairs of digits of either case, and ASCII
  blanks before, between and after the pairs, but not inside of one.  The decoder does not occur in
  it, and agrees with it in both directions (`spacedHex?_eq_some_iff`).
* **The check accepts exactly the texts that spell something** behind at most one mark `0x`
  (`hexEntries_eq_ok_iff`), and otherwise reports the first entry that does not
  (`first_of_hexEntries_error`).
* **Decoding has nothing left to refuse.**  A document holds its texts with the fact that all of
  them give bytes, so `HexEntries.decoded` is total; `decodes_iff` says that it gives what they
  spell.

A mark can not be taken for digits, nor the other way round: no text that spells bytes begins with
one (`Spells.unmarked_eq`).
-/
import Mathlib
import ScriptTemplate.Document.Data
import ScriptTemplate.Proofs.PureOutcome
import ScriptTemplate.Proofs.TreePrinting
import ScriptTemplate.Report

namespace ScriptTemplate

/-! ## 1. Digits -/

namespace Hex

theorem toNat_cased : ∀ upper, ∀ n < 16, (cased upper n).toNat =
    if n < 10 then 48 + n else if upper then 55 + n else 87 + n := by
  decide

/-- **A digit is one of the two cases of its value.** -/
theorem exists_cased_of_value? {c : CodePoint} {n : Nat} (h : value? c = some n) :
    ∃ upper, c = cased upper n := by
  have small := lt_of_value? h
  have named (upper : Bool) (number : c.toNat = (cased upper n).toNat) :
      ∃ upper, c = cased upper n :=
    ⟨upper, CodePoint.toNat_inj.mp number⟩
  have zero : ('0' : Char).toNat = 48 := rfl
  have nine : ('9' : Char).toNat = 57 := rfl
  have lowerA : ('a' : Char).toNat = 97 := rfl
  have lowerF : ('f' : Char).toNat = 102 := rfl
  have upperA : ('A' : Char).toNat = 65 := rfl
  have upperF : ('F' : Char).toNat = 70 := rfl
  unfold value? at h
  split at h
  · next range =>
    simp only [CodePoint.isWithin, Bool.and_eq_true, decide_eq_true_eq] at range
    cases h
    refine named false ?_
    rw [toNat_cased false _ small, if_pos (by omega)]
    omega
  · split at h
    · next range =>
      simp only [CodePoint.isWithin, Bool.and_eq_true, decide_eq_true_eq] at range
      cases h
      refine named false ?_
      rw [toNat_cased false _ small, if_neg (by omega), if_neg Bool.false_ne_true]
      omega
    · split at h
      · next range =>
        simp only [CodePoint.isWithin, Bool.and_eq_true, decide_eq_true_eq] at range
        cases h
        refine named true ?_
        rw [toNat_cased true _ small, if_neg (by omega), if_pos rfl]
        omega
      · cases h

theorem byte?_cased (byte : UInt8) (upper upper' : Bool) :
    byte? (cased upper (byte.toNat / 16)) (cased upper' (byte.toNat % 16)) = some byte := by
  have small : byte.toNat < 256 := byte.toNat_lt
  have whole : UInt8.ofNat (16 * (byte.toNat / 16) + byte.toNat % 16) = byte := by
    rw [Nat.div_add_mod, UInt8.ofNat_toNat]
  simp only [byte?, value?_cased upper _ (show byte.toNat / 16 < 16 by omega),
    value?_cased upper' _ (show byte.toNat % 16 < 16 by omega), whole]

theorem not_isAsciiBlank_cased :
    ∀ upper, ∀ n < 16, Text.isAsciiBlank (cased upper n) = false := by
  decide

end Hex

namespace Document

/-! ## 2. Texts that spell bytes -/

/-- **A text spells bytes**: it has a pair of digits for each byte, the high one first and each in
either case, and ASCII blanks anywhere but inside of a pair. -/
inductive Spells : Bytes → Text → Prop
  | nil : Spells [] []
  | blank {c : CodePoint} {bytes : Bytes} {text : Text} (blank : Text.isAsciiBlank c)
    (rest : Spells bytes text) : Spells bytes (c :: text)
  | pair (byte : UInt8) (upper upper' : Bool) {bytes : Bytes} {text : Text}
    (rest : Spells bytes text) :
    Spells (byte :: bytes)
      (Hex.cased upper (byte.toNat / 16) :: Hex.cased upper' (byte.toNat % 16) :: text)

theorem spacedHex?_of_spells {bytes : Bytes} {text : Text} (spells : Spells bytes text) :
    spacedHex? text = some bytes := by
  induction spells with
  | nil => rfl
  | @blank c _ text blank _ ih =>
    have skipped : spacedHex? (c :: text) = spacedHex? text := by
      cases text <;> simp only [spacedHex?, blank, if_true]
    rw [skipped, ih]
  | pair byte upper upper' _ ih =>
    have small : byte.toNat / 16 < 16 := by
      have : byte.toNat < 256 := byte.toNat_lt
      omega
    have solid : ¬ Text.isAsciiBlank (Hex.cased upper (byte.toNat / 16)) := by
      rw [Hex.not_isAsciiBlank_cased upper _ small]
      exact Bool.false_ne_true
    rw [spacedHex?, if_neg solid]
    simp only [Hex.byte?_cased, ih, Option.map_some]

theorem spells_of_spacedHex? {bytes : Bytes} {text : Text} (h : spacedHex? text = some bytes) :
    Spells bytes text := by
  fun_induction spacedHex? text generalizing bytes with
  | case1 =>
    cases h
    exact .nil
  | case2 c rest blank ih => exact .blank blank (ih h)
  | case3 c solid => cases h
  | case4 high solid low rest byte read ih =>
    obtain ⟨later, decoded, rfl⟩ := Option.map_eq_some_iff.mp h
    obtain ⟨first, second⟩ := Hex.halves_of_byte? read
    obtain ⟨upper, rfl⟩ := Hex.exists_cased_of_value? first
    obtain ⟨upper', rfl⟩ := Hex.exists_cased_of_value? second
    exact .pair byte upper upper' (ih decoded)
  | case5 high solid low rest refused => cases h

/-- **The decoder reads exactly the texts that spell bytes.** -/
theorem spacedHex?_eq_some_iff {bytes : Bytes} {text : Text} :
    spacedHex? text = some bytes ↔ Spells bytes text :=
  ⟨spells_of_spacedHex?, spacedHex?_of_spells⟩

/-- **No text that spells bytes begins with a mark.** -/
theorem Spells.unmarked_eq {bytes : Bytes} {text : Text} (spells : Spells bytes text) :
    unmarked text = text := by
  unfold unmarked
  split
  · -- The letter of a mark has no value as a digit.
    have read := spacedHex?_of_spells spells
    rw [spacedHex?, if_neg (by decide)] at read
    have refused : Hex.byte? (.char '0') (.char 'x') = none := by decide
    simp only [refused] at read
    cases read
  · rfl

/-- The digits that outcomes are written with spell their bytes. -/
theorem spells_toHex (bytes : Bytes) : Spells bytes bytes.toHex := by
  induction bytes with
  | nil => exact .nil
  | cons byte rest ih => exact .pair byte false false ih

/-- **A text writes bytes**: it spells them, as it is or behind one mark. -/
def Writes (text : Text) (bytes : Bytes) : Prop :=
  ∃ spelled, Spells bytes spelled ∧ (text = spelled ∨ text = ("0x" : Text) ++ spelled)

theorem Writes.spells {text : Text} {bytes : Bytes} (writes : Writes text bytes) :
    Spells bytes (unmarked text) := by
  obtain ⟨spelled, spells, rfl | rfl⟩ := writes
  · rw [spells.unmarked_eq]
    exact spells
  · exact spells

/-! ## 3. Entries -/

/-- **A text is in hexadecimal**: behind at most one mark, it spells some bytes. -/
def IsHex (text : Text) : Prop := ∃ bytes, Spells bytes (unmarked text)

theorem documentBytes?_eq_some_iff {bytes : Bytes} {text : Text} :
    documentBytes? text = some bytes ↔ Spells bytes (unmarked text) :=
  spacedHex?_eq_some_iff

theorem isSome_documentBytes?_iff {text : Text} : (documentBytes? text).isSome ↔ IsHex text := by
  rw [Option.isSome_iff_exists]
  exact exists_congr fun _ => documentBytes?_eq_some_iff

/-- **The check accepts entries if all of them are in hexadecimal, and keeps them as they are.** -/
theorem hexEntries_eq_ok_iff {entries : Dictionary Text} {checked : HexEntries} :
    hexEntries entries = .ok checked ↔ checked.val = entries := by
  induction entries generalizing checked with
  | nil =>
    constructor
    · rintro ⟨⟩
      rfl
    · intro same
      exact congrArg Except.ok (Subtype.ext same.symm)
  | cons entry rest ih =>
    obtain ⟨name, text⟩ := entry
    unfold hexEntries
    constructor
    · intro h
      split at h
      · obtain ⟨later, accepted, rfl⟩ := map_eq_ok_iff.mp h
        exact congrArg _ (ih.mp accepted)
      · cases h
    · obtain ⟨kept, hex⟩ := checked
      rintro rfl
      obtain ⟨first, others⟩ := List.forall_mem_cons.mp hex
      have later : hexEntries rest = .ok ⟨rest, others⟩ := ih.mpr rfl
      rw [dif_pos first, later]
      rfl

/-- **The check reports the first entry that is not in hexadecimal.** -/
theorem first_of_hexEntries_error {entries : Dictionary Text} {cause : Cause}
    (failed : hexEntries entries = .error cause) :
    ∃ before name text after, entries = before ++ (name, text) :: after ∧
      (∀ entry ∈ before, IsHex entry.2) ∧ ¬ IsHex text ∧ cause = .refused (notHexReason name) := by
  induction entries with
  | nil => cases failed
  | cons entry rest ih =>
    obtain ⟨name, text⟩ := entry
    unfold hexEntries at failed
    split at failed
    · next hex =>
      obtain ⟨before, bad, wrong, after, rfl, fine, notHex, rfl⟩ := ih (map_eq_error_iff.mp failed)
      exact ⟨(name, text) :: before, bad, wrong, after, rfl,
        List.forall_mem_cons.mpr ⟨isSome_documentBytes?_iff.mp hex, fine⟩, notHex, rfl⟩
    · next notSome =>
      cases failed
      exact ⟨[], name, text, rest, rfl, List.forall_mem_nil _,
        mt isSome_documentBytes?_iff.mpr notSome, rfl⟩

/-- **Entries give bytecode**: the same names in the same order, each with the bytes that its text
spells. -/
def Decodes (texts : Dictionary Text) (bytecode : Dictionary Bytes) : Prop :=
  List.Forall₂ (fun entry value => value.1 = entry.1 ∧ Spells value.2 (unmarked entry.2)) texts
    bytecode

theorem Decodes.hex {texts : Dictionary Text} {bytecode : Dictionary Bytes}
    (decodes : Decodes texts bytecode) : ∀ entry ∈ texts, (documentBytes? entry.2).isSome := by
  induction decodes with
  | nil => exact List.forall_mem_nil _
  | cons head _ ih =>
    exact List.forall_mem_cons.mpr ⟨isSome_documentBytes?_iff.mpr ⟨_, head.2⟩, ih⟩

/-- **What is decoded is what the texts spell**, and nothing else is. -/
theorem decodes_iff {entries : HexEntries} {bytecode : Dictionary Bytes} :
    Decodes entries.val bytecode ↔ entries.decoded = bytecode := by
  obtain ⟨texts, hex⟩ := entries
  unfold HexEntries.decoded Decodes
  induction texts generalizing bytecode with
  | nil => simp [eq_comm]
  | cons entry rest ih =>
    obtain ⟨first, others⟩ := List.forall_mem_cons.mp hex
    have read {bytes : Bytes} : Spells bytes (unmarked entry.2) ↔
        (documentBytes? entry.2).get first = bytes := by
      rw [← documentBytes?_eq_some_iff, Option.eq_some_iff_get_eq]
      exact exists_prop_of_true first
    rw [List.forall₂_cons_left_iff]
    simp only [List.pmap_cons]
    constructor
    · rintro ⟨value, later, ⟨name, spells⟩, rest, rfl⟩
      rw [(ih others).mp rest, read.mp spells, ← name]
    · rintro rfl
      exact ⟨_, _, ⟨rfl, read.mpr rfl⟩, (ih others).mpr rfl, rfl⟩

/-! ## 4. Documents -/

/-- Texts by name, as a document gives them. -/
def written (texts : Dictionary Text) : Json :=
  .obj (texts.map fun entry => (entry.1, .str entry.2))

theorem bytecodeValue_written (texts : Dictionary Text) :
    DataDocument.bytecodeValue (written texts) = here (hexEntries texts) := by
  have checked : dictionaryValue textValue (written texts) = .ok texts := by
    show entries textValue (texts.map fun entry => (entry.1, Json.str entry.2)) = .ok texts
    induction texts with
    | nil => rfl
    | cons entry rest ih =>
      rw [List.map_cons, entries, ih]
      rfl
  rw [DataDocument.bytecodeValue, checked]
  rfl

theorem mapError_eq_ok_iff {ε ε' α : Type} {checked : Except ε α} {f : ε → ε'} {value : α} :
    checked.mapError f = .ok value ↔ checked = .ok value := by
  cases checked <;> simp [Except.mapError]

/-- **The check of a document accepts its texts if all of them are in hexadecimal**, and keeps them
as they are. -/
theorem bytecodeValue_eq_ok_iff {texts : Dictionary Text} {checked : HexEntries} :
    DataDocument.bytecodeValue (written texts) = .ok checked ↔ checked.val = texts := by
  rw [bytecodeValue_written, here, mapError_eq_ok_iff, hexEntries_eq_ok_iff]

/-- The bytecode field has one name. -/
theorem key?_bytecodeField {given : Dictionary Json} {value : Json}
    (there : given.lookup Data.bytecodeField.name = some value) :
    Data.bytecodeField.key? given = some Data.bytecodeField.name := by
  have found : (given.lookup Data.bytecodeField.documentName).isSome :=
    Option.isSome_of_eq_some there
  rw [Field.key?, if_pos found]
  rfl

theorem optional_bytecodeField {α : Type} {given : Dictionary Json} {value : Json}
    (there : given.lookup Data.bytecodeField.name = some value) (otherwise : α)
    (check : Json → Checked α) :
    Data.bytecodeField.optional given otherwise check =
      (check value).within Data.bytecodeField.name := by
  simp only [Field.optional, key?_bytecodeField there, there, Option.getD_some]

/-- The problems of a check stay in front of those of a later one. -/
theorem Checked.exists_both_error {α β : Type} (problems : List Problem) (later : Checked β) :
    ∃ others, (Checked.both (.error problems : Checked α) later) = .error (problems ++ others) := by
  cases later with
  | ok value => exact ⟨[], by rw [List.append_nil]; rfl⟩
  | error others => exact ⟨others, rfl⟩

namespace DataDocument

/-- A document without its bytecode. -/
def bare (document : DataDocument) : DataDocument := { document with bytecode := .empty }

/-- **Decoding adds no failure**: the data of a document are those of the rest of it, together with
the bytes of its entries. -/
theorem toData_eq (document : DataDocument) :
    document.toData = document.bare.toData.map fun data =>
      { data with bytecode := document.bytecode.decoded } := by
  unfold toData
  rw [show document.bare.operationData = document.operationData from rfl,
    show document.bare.blocks = document.blocks from rfl]
  cases document.operationData with
  | error invalid => rfl
  | ok operation => cases document.blocks <;> rfl

theorem bytecodeValue_of_ofJson {given : Dictionary Json} {value : Json} {document : DataDocument}
    (there : given.lookup Data.bytecodeField.name = some value)
    (accepted : ofJson (.obj given) = .ok document) :
    bytecodeValue value = .ok document.bytecode := by
  replace accepted : ofFields given = .ok document := mapError_eq_ok_iff.mp accepted
  unfold ofFields wellNamed at accepted
  rw [optional_bytecodeField there] at accepted
  split at accepted
  · obtain ⟨⟨bytecode, others⟩, checked, rfl⟩ := map_eq_ok_iff.mp accepted
    obtain ⟨within, -⟩ := Checked.both_eq_ok_iff.mp checked
    exact mapError_eq_ok_iff.mp within
  · cases accepted

/-- Problems with the bytecode come first. -/
theorem ofJson_of_refused {given : Dictionary Json} {value : Json} {problems : List Problem}
    (named : (Dictionary.names given).all Text.isWellFormed)
    (there : given.lookup Data.bytecodeField.name = some value)
    (refused : bytecodeValue value = .error problems) :
    ∃ others, ofJson (.obj given) = .error ⟨record,
      problems.map (fun p => { p with path := Data.bytecodeField.name :: p.path }) ++ others⟩ := by
  unfold ofJson ofFields wellNamed
  dsimp only
  rw [if_pos named, optional_bytecodeField there, refused]
  have shown : Checked.shownKey Data.bytecodeField.name = Data.bytecodeField.name := by decide
  obtain ⟨others, failed⟩ := Checked.exists_both_error (α := HexEntries)
    (problems.map fun p => { p with path := Data.bytecodeField.name :: p.path }) _
  refine ⟨others, congrArg (Checked.asRecord record) (map_eq_error_iff.mpr ?_)⟩
  simp only [Checked.within, shown]
  exact failed

/-- **A document that gives bytecode and nothing else is read to the end.** -/
theorem read_written (entries : HexEntries) :
    read (.obj [(Data.bytecodeField.name, written entries.val)]) =
      .ok { bytecode := entries.decoded } := by
  have absent (field : Field) (name : field.name ≠ Data.bytecodeField.name)
      (documentName : field.documentName ≠ Data.bytecodeField.name) :
      field.key? [(Data.bytecodeField.name, written entries.val)] = none := by
    simp [Field.key?, List.lookup_cons, beq_eq_false_iff_ne.mpr name,
      beq_eq_false_iff_ne.mpr documentName]
  have there : List.lookup Data.bytecodeField.name
      [(Data.bytecodeField.name, written entries.val)] = some (written entries.val) :=
    List.lookup_cons_self
  have checked : bytecodeValue (written entries.val) = .ok entries :=
    bytecodeValue_eq_ok_iff.mpr rfl
  have accepted : ofFields [(Data.bytecodeField.name, written entries.val)] =
      .ok ⟨entries, none, none, none⟩ := by
    unfold ofFields wellNamed
    rw [if_pos (by rfl), optional_bytecodeField there, checked]
    have operation := absent Data.operationField (by decide) (by decide)
    have height := absent Data.blockHeightField (by decide) (by decide)
    have time := absent Data.blockTimeField (by decide) (by decide)
    have known : noOthers fields [(Data.bytecodeField.name, written entries.val)] = .ok () := by
      simp [noOthers, fields, Dictionary.names, key?_bytecodeField there, operation, height, time]
    rw [known]
    simp only [Field.optional, operation, height, time]
    rfl
  have made : ofJson (.obj [(Data.bytecodeField.name, written entries.val)]) =
      .ok ⟨entries, none, none, none⟩ := congrArg (Checked.asRecord record) accepted
  rw [read, made]
  rfl

theorem exists_bytecodeValue_iff {texts : Dictionary Text} :
    (∃ checked, bytecodeValue (written texts) = .ok checked) ↔ ∀ entry ∈ texts, IsHex entry.2 := by
  constructor
  · rintro ⟨checked, accepted⟩
    obtain rfl := bytecodeValue_eq_ok_iff.mp accepted
    exact fun entry member => isSome_documentBytes?_iff.mp (checked.2 entry member)
  · intro hex
    exact ⟨⟨texts, fun entry member => isSome_documentBytes?_iff.mpr (hex entry member)⟩,
      bytecodeValue_eq_ok_iff.mpr rfl⟩

/-- **Texts that spell bytes are read as these bytes.** -/
theorem read_of_decodes {texts : Dictionary Text} {bytecode : Dictionary Bytes}
    (decodes : Decodes texts bytecode) :
    read (.obj [(Data.bytecodeField.name, written texts)]) = .ok { bytecode } := by
  have decoded : HexEntries.decoded ⟨texts, decodes.hex⟩ = bytecode := decodes_iff.mp decodes
  rw [← decoded]
  exact read_written ⟨texts, decodes.hex⟩

theorem decodes_of_ofJson {given : Dictionary Json} {texts : Dictionary Text}
    {document : DataDocument}
    (there : given.lookup Data.bytecodeField.name = some (written texts))
    (accepted : ofJson (.obj given) = .ok document) :
    Decodes texts document.bytecode.decoded := by
  have checked := bytecodeValue_of_ofJson there accepted
  obtain rfl := bytecodeValue_eq_ok_iff.mp checked
  exact decodes_iff.mpr rfl

/-- **A document with an entry that is not in hexadecimal is refused, and the first one is named.** -/
theorem ofJson_of_not_hex {given : Dictionary Json} {texts : Dictionary Text}
    (there : given.lookup Data.bytecodeField.name = some (written texts))
    (named : (Dictionary.names given).all Text.isWellFormed)
    (notAll : ¬ ∀ entry ∈ texts, IsHex entry.2) :
    ∃ before name text after others, texts = before ++ (name, text) :: after ∧
      (∀ entry ∈ before, IsHex entry.2) ∧ ¬ IsHex text ∧
      ofJson (.obj given) = .error ⟨record,
        ⟨[Data.bytecodeField.name], .refused (notHexReason name)⟩ :: others⟩ := by
  cases checked : hexEntries texts with
  | ok entries =>
    have accepted := bytecodeValue_eq_ok_iff.mpr (hexEntries_eq_ok_iff.mp checked)
    exact absurd (exists_bytecodeValue_iff.mp ⟨entries, accepted⟩) notAll
  | error cause =>
    obtain ⟨before, name, text, after, split, fine, notHex, rfl⟩ :=
      first_of_hexEntries_error checked
    have refused : bytecodeValue (written texts) =
        .error [⟨[], .refused (notHexReason name)⟩] := by
      rw [bytecodeValue_written, checked]
      rfl
    obtain ⟨others, failed⟩ := ofJson_of_refused named there refused
    exact ⟨before, name, text, after, others, split, fine, notHex, failed⟩

/-- **Bytecode in documents is what its digits spell.**  A document whose texts write bytes, in any
spelling, is read as these bytes, and so is the bytecode of an outcome as it is printed.  The check
of a document accepts its entries exactly if all of them are in hexadecimal; then the data of the
document have the bytes that the texts spell, under the same names and in the same order, and can
fail only for what else is in the document.  Otherwise the problems of the document begin with one
that names the first entry that is not in hexadecimal. -/
theorem bytecode_is_spelled :
    (∀ texts bytecode,
      List.Forall₂ (fun (entry : Text × Text) (value : Text × Bytes) =>
        value.1 = entry.1 ∧ Writes entry.2 value.2) texts bytecode →
      read (.obj [(Data.bytecodeField.name, written texts)]) = .ok { bytecode }) ∧
    (∀ {τ ρ σ : Type} (outcome : Success τ ρ σ) (name : Text),
      ∃ digits, outcome.toJson.field? "bytecode" = some (.str digits) ∧
        read (.obj [(Data.bytecodeField.name, written [(name, digits)])]) =
          .ok { bytecode := [(name, outcome.bytecode)] }) ∧
    (∀ texts, (∃ checked, bytecodeValue (written texts) = .ok checked) ↔
      ∀ entry ∈ texts, IsHex entry.2) ∧
    (∀ given texts document, given.lookup Data.bytecodeField.name = some (written texts) →
      ofJson (.obj given) = .ok document →
      ∃ bytecode, Decodes texts bytecode ∧
        document.toData = document.bare.toData.map fun data => { data with bytecode }) ∧
    ∀ given texts, given.lookup Data.bytecodeField.name = some (written texts) →
      (Dictionary.names given).all Text.isWellFormed → ¬ (∀ entry ∈ texts, IsHex entry.2) →
      ∃ before name text after others, texts = before ++ (name, text) :: after ∧
        (∀ entry ∈ before, IsHex entry.2) ∧ ¬ IsHex text ∧
        ofJson (.obj given) = .error ⟨record,
          ⟨[Data.bytecodeField.name], .refused (notHexReason name)⟩ :: others⟩ := by
  refine ⟨?_, ?_, fun texts => exists_bytecodeValue_iff, ?_, ?_⟩
  · intro texts bytecode writes
    exact read_of_decodes (writes.imp fun _ _ entry => ⟨entry.1, entry.2.spells⟩)
  · intro τ ρ σ outcome name
    refine ⟨outcome.bytecode.toHex, rfl, read_of_decodes ?_⟩
    have spells := spells_toHex outcome.bytecode
    refine .cons ⟨rfl, ?_⟩ .nil
    rw [spells.unmarked_eq]
    exact spells
  · intro given texts document there accepted
    exact ⟨_, decodes_of_ofJson there accepted, document.toData_eq⟩
  · intro given texts there named notAll
    exact ofJson_of_not_hex there named notAll

/-- Digits of both cases, a mark, blanks and no digits at all are read.  A second mark is refused,
and so is a blank inside of a pair; of two such entries the first is named. -/
theorem bytecode_is_spelled_mixed :
    read (.obj [(Data.bytecodeField.name,
        written [("a", "0xDe \nAd"), ("b", ""), ("c", " 7F")])]) =
      .ok { bytecode := [("a", [0xde, 0xad]), ("b", []), ("c", [0x7f])] } ∧
    ∃ others, ofJson (.obj [(Data.bytecodeField.name,
        written [("a", "0x00"), ("b", "0x0x00"), ("c", "0 0")])]) =
      .error ⟨record, ⟨[Data.bytecodeField.name], .refused (notHexReason "b")⟩ :: others⟩ := by
  obtain ⟨written_read, -, -, -, refused⟩ := bytecode_is_spelled
  constructor
  · refine written_read _ _ (.cons ⟨rfl, "De \nAd", ?_, .inr rfl⟩
      (.cons ⟨rfl, "", .nil, .inl rfl⟩ (.cons ⟨rfl, " 7F", ?_, .inl rfl⟩ .nil)))
    · exact .pair 0xde true false (.blank rfl (.blank rfl (.pair 0xad true false .nil)))
    · exact .blank rfl (.pair 0x7f false true .nil)
  · have fine : IsHex "0x00" := isSome_documentBytes?_iff.mp (by decide)
    have bad : ¬ IsHex "0x0x00" := fun hex => absurd (isSome_documentBytes?_iff.mpr hex) (by decide)
    obtain ⟨before, name, text, after, others, split, first, notHex, failed⟩ :=
      refused [(Data.bytecodeField.name, written [("a", "0x00"), ("b", "0x0x00"), ("c", "0 0")])]
        [("a", "0x00"), ("b", "0x0x00"), ("c", "0 0")] List.lookup_cons_self (by decide)
        (fun all => bad (all ("b", "0x0x00") (by simp)))
    match before, split with
    | [], split =>
      cases split
      exact absurd fine notHex
    | [entry], split =>
      cases split
      exact ⟨others, failed⟩
    | entry :: next :: before, split =>
      obtain ⟨rfl, -⟩ := List.cons.inj (List.cons.inj split).2
      exact absurd (first ("b", "0x0x00") (by simp)) bad

end DataDocument

end Document

end ScriptTemplate
