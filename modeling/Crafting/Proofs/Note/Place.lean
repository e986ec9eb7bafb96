import Crafting.Proofs.Note.Refusal

/-!
# Where faults are

A block that is malformed is refused for one of its lines that are not blank, by the number of that line among all lines
of the block, and what is said is so of that line: it is the first that is no field, or it is a field with the key and the
value that are named. Only a block that ends before its first material is refused without a line.
-/

namespace Crafting.Note

open Text

/-! ## Lines and their numbers -/

/-- The lines of a block that are not blank, each with its number among all lines, from one. -/
def textLines (body : List Char) : List (Nat × List Char) :=
  (numberedLines body).filter fun entry => trim entry.2 ≠ []

theorem mem_textLines_iff {body : List Char} {n : Nat} {line : List Char} :
    (n, line) ∈ textLines body ↔ 1 ≤ n ∧ (lines body)[n - 1]? = some line ∧ trim line ≠ [] := by
  simp only [textLines, numberedLines, List.mem_filter, List.mem_map, Prod.exists, Prod.mk.injEq, decide_eq_true_eq,
    List.mem_zipIdx_iff_le_and_getElem?_sub]
  constructor
  · rintro ⟨⟨_, _, hline, rfl, rfl⟩, htext⟩
    exact ⟨hline.1, hline.2, htext⟩
  · rintro ⟨hn, hline, htext⟩
    exact ⟨⟨line, n, ⟨hn, hline⟩, rfl, rfl⟩, htext⟩

/-- The numbers of lines only grow. -/
theorem pairwise_textLines (body : List Char) : ((textLines body).map Prod.fst).Pairwise (· < ·) := by
  have hnumbers : (numberedLines body).map Prod.fst = List.range' 1 (lines body).length := by
    rw [numberedLines, List.map_map]
    exact List.zipIdx_map_snd 1 (lines body)
  have hall : ((numberedLines body).map Prod.fst).Pairwise (· < ·) := hnumbers ▸ List.pairwise_lt_range'
  exact hall.sublist (List.filter_sublist.map Prod.fst)

/-! ## Lines that are no fields -/

/-- The line says something under a key. -/
def IsFieldLine (line : List Char) : Prop :=
  ∃ key value, IsField (trim line) key value

theorem isFieldLine_iff {line : List Char} : IsFieldLine line ↔ (splitField? (trim line)).isSome = true := by
  simp only [IsFieldLine, ← splitField?_eq_some_iff, Option.isSome_iff_exists, Prod.exists]

instance (line : List Char) : Decidable (IsFieldLine line) :=
  decidable_of_iff _ isFieldLine_iff.symm

/-- The fault of a line that is no field. -/
def oddLine (entry : Nat × List Char) : Fault :=
  ⟨.notAField (String.ofList (trim entry.2)), some entry.1⟩

/-- Reading fields stops at the first line that is no field, blank ones passed over. -/
theorem fieldsOf_eq_error_iff {numbered : List (Nat × List Char)} {fault : Fault} :
    fieldsOf numbered = .error fault ↔
      ∃ entry, ((numbered.filter fun entry => trim entry.2 ≠ []).find? fun entry => ¬IsFieldLine entry.2) = some entry ∧
        fault = oddLine entry := by
  induction numbered with
  | nil => exact iff_of_false nofun fun ⟨_, h, _⟩ => nomatch h
  | cons first rest ih =>
      obtain ⟨number, line⟩ := first
      rw [fieldsOf_cons, List.filter_cons]
      by_cases hblank : trim line = []
      · simpa [hblank] using ih
      · rw [if_neg hblank, if_pos (decide_eq_true hblank), List.find?_cons]
        cases hsplit : splitField? (trim line) with
        | none =>
            have hodd : ¬IsFieldLine line := by rw [isFieldLine_iff, hsplit]; exact Bool.false_ne_true
            simp only [hodd, not_false_eq_true, decide_true, Option.some.injEq, exists_eq_left', Except.error.injEq]
            exact eq_comm
        | some pair =>
            have hfield : IsFieldLine line := by rw [isFieldLine_iff, hsplit]; rfl
            simp only [hfield, not_true_eq_false, decide_false, Result.map_eq_error_iff]
            exact ih

theorem fields_eq_ok_iff {body : List Char} {found : List Field} :
    fields body = .ok found ↔ List.Forall₂ Field.ReadFrom (textLines body) found :=
  fieldsOf_eq_ok_iff

theorem fields_eq_error_iff {body : List Char} {fault : Fault} :
    fields body = .error fault ↔
      ∃ entry, ((textLines body).find? fun entry => ¬IsFieldLine entry.2) = some entry ∧ fault = oddLine entry :=
  fieldsOf_eq_error_iff

/-- Fields keep the numbers of their lines. -/
theorem map_line_of_readFrom {numbered : List (Nat × List Char)} {found : List Field}
    (h : List.Forall₂ Field.ReadFrom numbered found) : found.map Field.line = numbered.map Prod.fst := by
  induction h with
  | nil => rfl
  | cons hfirst _ ih => rw [List.map_cons, List.map_cons, ih, hfirst.line_eq]

/-! ## Fields that are at fault -/

/-- What the cause names is what the field says. -/
def Cause.Names (field : Field) : Cause → Prop
  | .notAField _ => False
  | .missingField key found => field.key ≠ key.toList ∧ found = some (String.ofList field.key)
  | .unknownKind name => name.toList <+: field.value ∧ ¬∃ kind, SpellsKind name.toList kind
  | .notARef key value | .notAMaterial key value | .notACount key value =>
      key = String.ofList field.key ∧ value = String.ofList field.value
  | .refused _ => True
  | .unexpectedField key => key = String.ofList field.key

/-- The fault is one of that field: it gives the number of its line, and names it. -/
structure Fault.At (field : Field) (fault : Fault) : Prop where
  line_eq : fault.line = some field.line
  names : fault.cause.Names field

section

variable {field : Field} {fault : Fault}

/-- Behind its letters a value is at fault for the kind that they do not spell, or for its numbers. -/
theorem named_error {α : Type} {letters rest : List Char} {next : Kind → Except Failure α}
    (hletters : ∀ c ∈ letters, isAsciiLetter c = true) (hvalue : field.value = letters ++ rest)
    (h : (do let kind ← readKind field letters; field.refuse (next kind)) = .error fault) : fault.At field := by
  rcases Result.bind_eq_error_iff.1 h with hkind | ⟨kind, -, hrefused⟩
  · have hunknown : ¬∃ kind, SpellsKind letters kind := by
      rintro ⟨kind, hspells⟩
      rw [(readKind_eq_ok_iff hletters).2 hspells] at hkind
      cases hkind
    have hfault : fault = ⟨.unknownKind (String.ofList letters), some field.line⟩ := by
      rw [readKind] at hkind
      split at hkind <;> cases hkind <;> rfl
    rw [hfault]
    refine ⟨rfl, ?_, ?_⟩
    · rw [String.toList_ofList, hvalue]
      exact List.prefix_append letters rest
    · rwa [String.toList_ofList]
  · obtain ⟨failure, -, rfl⟩ := Result.mapError_eq_error_iff.1 hrefused
    exact ⟨rfl, trivial⟩

theorem readRef_error (h : readRef field = .error fault) : fault.At field := by
  rw [readRef] at h
  split at h
  · rename_i letters digits hsplit
    obtain ⟨-, -, hletters, -, -, gap, -, hvalue⟩ := splitRef?_eq_some_iff.1 hsplit
    exact named_error hletters hvalue h
  · cases h
    exact ⟨rfl, rfl, rfl⟩

theorem readMaterial_error (h : readMaterial field = .error fault) : fault.At field := by
  rw [readMaterial] at h
  split at h
  · rename_i letters digits quantity hsplit
    obtain ⟨rest, href, -⟩ := splitMaterial_eq_some_iff.1 hsplit
    obtain ⟨-, -, hletters, -, -, gap, -, hvalue⟩ := splitRef?_eq_some_iff.1 href
    exact named_error hletters hvalue h
  · cases h
    exact ⟨rfl, rfl, rfl⟩

theorem readCost_malformed (h : readCost field = .error (.malformed fault)) : fault.At field := by
  rw [readCost] at h
  split at h
  · obtain ⟨_, -, hcause⟩ := Result.mapError_eq_error_iff.1 h
    cases hcause
  · cases h
    exact ⟨rfl, rfl, rfl⟩

end

/-! ## Blocks that are at fault -/

theorem readMaterials_error {number : Nat} {found : List Field} {fault : Fault}
    (h : readMaterials number found = .error fault) : ∃ field ∈ found, fault.At field := by
  induction found generalizing number with
  | nil => cases h
  | cons field rest ih =>
      rw [readMaterials] at h
      split at h
      · rcases Result.bind_eq_error_iff.1 h with hmaterial | ⟨material, -, hlater⟩
        · exact ⟨field, List.mem_cons_self, readMaterial_error hmaterial⟩
        · rcases Result.bind_eq_error_iff.1 hlater with hothers | ⟨others, -, hdone⟩
          · obtain ⟨other, hmem, hat⟩ := ih hothers
            exact ⟨other, List.mem_cons_of_mem _ hmem, hat⟩
          · cases hdone
      · cases h

/-- The fields end before the first material: there are none, or there is a result and no more. -/
def NoMaterial (found : List Field) : Prop :=
  found = [] ∨ ∃ field ref, found = [field] ∧ field.key = "result".toList ∧ NamesRef field.value ref

theorem readMaterials_eq_nil {number : Nat} {found left : List Field} (h : readMaterials number found = .ok ([], left)) :
    left = found ∧ ∀ field ∈ found.head?, field.key ≠ materialKey number := by
  obtain ⟨taken, values, rfl, hentries, hnamed, hstop⟩ := readMaterials_eq_ok_iff.1 h
  obtain rfl := List.forall₂_nil_right_iff.1 hnamed
  obtain rfl := entries_eq_nil_iff.1 hentries
  exact ⟨rfl, hstop⟩

/-- What is missing is missed at the next field, and nowhere if there is none. -/
theorem missing_of_ne {key : String} {rest : List Field} (h : ∀ field ∈ rest.head?, field.key ≠ key.toList) :
    (∃ field ∈ rest, (missing key rest).At field) ∨ (missing key rest).line = none ∧ rest = [] := by
  cases rest with
  | nil => exact .inr ⟨rfl, rfl⟩
  | cons field others => exact .inl ⟨field, List.mem_cons_self, rfl, h field rfl, rfl⟩

theorem readLayout_error {found : List Field} {fault : Fault} (h : readLayout found = .error fault) :
    (∃ field ∈ found, fault.At field) ∨ fault.line = none ∧ NoMaterial found := by
  rw [readLayout] at h
  simp only at h
  by_cases hfirst : ∀ field ∈ found.head?, field.key ≠ "result".toList
  · simp only [takeField_of_ne hfirst] at h
    cases h
    rcases missing_of_ne hfirst with hat | ⟨hnone, hnil⟩
    · exact .inl hat
    · exact .inr ⟨hnone, .inl hnil⟩
  · simp only [not_forall, not_not] at hfirst
    obtain ⟨result, hhead, hkey⟩ := hfirst
    obtain ⟨rest, rfl⟩ := List.head?_eq_some_iff.1 hhead
    have htake : takeField "result" (result :: rest) = (some result, rest) := if_pos hkey
    simp only [htake, Result.bind_eq_error_iff] at h
    rcases h with href | ⟨ref, href, ⟨⟨⟩⟩ | ⟨_, ⟨⟩, hmaterials | ⟨⟨materials, left⟩, hmaterials, hend⟩⟩⟩
    · exact .inl ⟨result, List.mem_cons_self, readRef_error href⟩
    · obtain ⟨field, hmem, hat⟩ := readMaterials_error hmaterials
      exact .inl ⟨field, List.mem_cons_of_mem _ hmem, hat⟩
    · split at hend
      · rename_i hempty
        obtain rfl : materials = [] := List.isEmpty_iff.1 hempty
        cases hend
        -- Nothing was taken: what is missed is the first material, behind the result.
        obtain ⟨rfl, hnext⟩ := readMaterials_eq_nil hmaterials
        rcases missing_of_ne hnext with ⟨field, hmem, hat⟩ | ⟨hnone, rfl⟩
        · exact .inl ⟨field, List.mem_cons_of_mem _ hmem, hat⟩
        · exact .inr ⟨hnone, .inr ⟨result, ref, rfl, hkey, readRef_eq_ok_iff.1 href⟩⟩
      · obtain ⟨_, _, rfl, -⟩ := readMaterials_eq_ok_iff.1 hmaterials
        obtain ⟨description, rest, htake, rfl, -⟩ := exists_takeField "description" left
        simp only [htake] at hend
        obtain ⟨requirement, rest, htake, rfl, -⟩ := exists_takeField "requirement" rest
        simp only [htake] at hend
        obtain ⟨cost, rest, htake, rfl, -⟩ := exists_takeField "cost" rest
        simp only [htake] at hend
        cases rest with
        | nil => cases hend
        | cons field others =>
            cases hend
            exact .inl ⟨field, by simp, rfl, rfl⟩

/-- What ends before the first material is refused for that. -/
theorem readLayout_of_noMaterial {found : List Field} (h : NoMaterial found) :
    ∃ cause, readLayout found = .error ⟨cause, none⟩ := by
  rcases h with rfl | ⟨field, ref, rfl, hkey, hnamed⟩
  · exact ⟨.missingField "result" none, rfl⟩
  · refine ⟨.missingField "material1" none, ?_⟩
    have htake : takeField "result" [field] = (some field, []) := if_pos hkey
    rw [readLayout]
    simp only [htake, readRef_eq_ok_iff.2 hnamed]
    rfl

/-! ## Blocks that end early -/

/-- The block ends before its first material: it says nothing, or it says its result and no more. -/
def EndsEarly (body : List Char) : Prop :=
  textLines body = [] ∨
    ∃ entry value ref, textLines body = [entry] ∧ IsField (trim entry.2) "result".toList value ∧ NamesRef value ref

theorem endsEarly_iff {body : List Char} : EndsEarly body ↔ ∃ found, fields body = .ok found ∧ NoMaterial found := by
  simp only [fields_eq_ok_iff]
  constructor
  · rintro (hnone | ⟨entry, value, ref, hone, hfield, hnamed⟩)
    · exact ⟨[], hnone ▸ .nil, .inl rfl⟩
    · refine ⟨[⟨"result".toList, value, entry.1⟩], hone ▸ .cons ⟨rfl, hfield⟩ .nil, .inr ?_⟩
      exact ⟨_, ref, rfl, rfl, hnamed⟩
  · rintro ⟨found, hread, rfl | ⟨field, ref, rfl, hkey, hnamed⟩⟩
    · exact .inl (List.forall₂_nil_right_iff.1 hread)
    · obtain ⟨entry, rest, hfield, hrest, hone⟩ := List.forall₂_cons_right_iff.1 hread
      obtain rfl := List.forall₂_nil_right_iff.1 hrest
      exact .inr ⟨entry, field.value, ref, hone, hkey ▸ hfield.isField, hnamed⟩

/-- The fault is one of that line, and what it says is so: the line is no field, or it is the field that is named. -/
def Fault.SpeaksOf (entry : Nat × List Char) (fault : Fault) : Prop :=
  ¬IsFieldLine entry.2 ∧ fault = oddLine entry ∨ ∃ field : Field, field.ReadFrom entry ∧ fault.At field

theorem Fault.SpeaksOf.line_eq {entry : Nat × List Char} {fault : Fault} (h : fault.SpeaksOf entry) :
    fault.line = some entry.1 := by
  rcases h with ⟨-, rfl⟩ | ⟨field, hread, hat⟩
  · rfl
  · rw [hat.line_eq, hread.line_eq]

/-- What is at fault about a field is at fault about the line that it was read from. -/
theorem speaksOf_of_at {body : List Char} {found : List Field} {field : Field} {fault : Fault}
    (hread : fields body = .ok found) (hmem : field ∈ found) (hat : fault.At field) :
    ∃ entry ∈ textLines body, fault.SpeaksOf entry := by
  rw [fields_eq_ok_iff] at hread
  generalize textLines body = stated at hread ⊢
  induction hread with
  | nil => cases hmem
  | @cons entry first rest others hfirst hothers ih =>
      rcases List.mem_cons.1 hmem with rfl | hmem
      · exact ⟨entry, List.mem_cons_self, .inr ⟨field, hfirst, hat⟩⟩
      · obtain ⟨later, hlater, hspeaks⟩ := ih hmem
        exact ⟨later, List.mem_cons_of_mem _ hlater, hspeaks⟩

/-- A block is refused for the steps of reading it: for its lines, its layout, its requirement or its cost. -/
theorem readBlock_malformed {body : List Char} {source : Option EntityRef} {fault : Fault}
    (h : readBlock body source = .error (.malformed fault)) :
    (∃ entry ∈ textLines body, fault.SpeaksOf entry) ∨ fault.line = none ∧ EndsEarly body := by
  simp only [readBlock, Result.bind_eq_error_iff, Result.mapError_eq_error_iff, Result.mapError_eq_ok_iff,
    Result.bind_eq_ok_iff, Result.map_eq_error_iff, readOptional_eq_error_iff, Refusal.malformed.injEq, exists_eq_right,
    pure, Except.pure, reduceCtorEq, and_false, exists_false, or_false] at h
  rcases h with (hlines | ⟨found, hread, hlayout⟩) | ⟨layout, ⟨found, hread, hlayout⟩, hrest⟩
  · obtain ⟨entry, hfirst, rfl⟩ := fields_eq_error_iff.1 hlines
    have hodd : ¬IsFieldLine entry.2 := by simpa using List.find?_some hfirst
    exact .inl ⟨entry, List.mem_of_find?_eq_some hfirst, .inl ⟨hodd, rfl⟩⟩
  · rcases readLayout_error hlayout with ⟨field, hmem, hat⟩ | ⟨hnone, hends⟩
    · exact .inl (speaksOf_of_at hread hmem hat)
    · exact .inr ⟨hnone, endsEarly_iff.2 ⟨found, hread, hends⟩⟩
  · -- What the layout holds was found among the fields of the block.
    obtain ⟨result, taken, values, hfound, -⟩ := readLayout_eq_ok_iff.1 hlayout
    rcases hrest with ⟨field, hfield, hrefused⟩ | ⟨requirement, hrequirement, field, hfield, hrefused⟩
    · exact .inl (speaksOf_of_at hread (by simp [hfound, hfield]) (readRef_error hrefused))
    · exact .inl (speaksOf_of_at hread (by simp [hfound, hfield]) (readCost_malformed hrefused))

theorem readBlock_of_endsEarly {body : List Char} (h : EndsEarly body) (source : Option EntityRef) :
    ∃ cause, readBlock body source = .error (.malformed ⟨cause, none⟩) := by
  obtain ⟨found, hread, hends⟩ := endsEarly_iff.1 h
  obtain ⟨cause, hlayout⟩ := readLayout_of_noMaterial hends
  have hread : (fields body >>= readLayout) = .error ⟨cause, none⟩ :=
    Result.bind_eq_error_iff.2 (.inr ⟨found, hread, hlayout⟩)
  exact ⟨cause, by rw [readBlock, hread]; rfl⟩

/-- The lines that say something are those of the block that are not blank, by their numbers among all lines, and each of
them is one field in the same order, unless one is no field: then it is the first such line that is at fault. What makes
a block malformed stands at one of these lines and is so of it; it stands nowhere just when the block ends early. -/
theorem faults_stand_at_lines (body : List Char) (source : Option EntityRef) :
    (∀ n line, (n, line) ∈ textLines body ↔ 1 ≤ n ∧ (lines body)[n - 1]? = some line ∧ trim line ≠ []) ∧
    ((textLines body).map Prod.fst).Pairwise (· < ·) ∧
    (∀ found, fields body = .ok found ↔ List.Forall₂ Field.ReadFrom (textLines body) found) ∧
    (∀ found, fields body = .ok found → (found.map Field.line).Pairwise (· < ·)) ∧
    (∀ fault, fields body = .error fault ↔
      ∃ entry, ((textLines body).find? fun entry => ¬IsFieldLine entry.2) = some entry ∧ fault = oddLine entry) ∧
    (∀ fault, readBlock body source = .error (.malformed fault) →
      (fault.line = none ↔ EndsEarly body) ∧
      ∀ n, fault.line = some n → ∃ line, (n, line) ∈ textLines body ∧ fault.SpeaksOf (n, line)) ∧
    (EndsEarly body → ∃ cause, readBlock body source = .error (.malformed ⟨cause, none⟩)) := by
  refine ⟨fun n line => mem_textLines_iff, pairwise_textLines body, fun found => fields_eq_ok_iff, fun found hread => ?_,
    fun fault => fields_eq_error_iff, fun fault hread => ⟨⟨fun hnone => ?_, fun hends => ?_⟩, fun n hn => ?_⟩,
    fun hends => readBlock_of_endsEarly hends source⟩
  · have hlines := pairwise_textLines body
    rwa [← map_line_of_readFrom (fields_eq_ok_iff.1 hread)] at hlines
  · rcases readBlock_malformed hread with ⟨entry, -, hspeaks⟩ | ⟨-, hends⟩
    · rw [hspeaks.line_eq] at hnone
      cases hnone
    · exact hends
  · obtain ⟨cause, hcause⟩ := readBlock_of_endsEarly hends source
    rw [hread] at hcause
    cases hcause
    rfl
  · rcases readBlock_malformed hread with ⟨⟨number, line⟩, hmem, hspeaks⟩ | ⟨hnone, -⟩
    · obtain rfl : number = n := Option.some.inj (hspeaks.line_eq.symm.trans hn)
      exact ⟨line, hmem, hspeaks⟩
    · rw [hnone] at hn
      cases hn

end Crafting.Note

namespace Crafting.Sample

open Note

/-- A blank line before the result, and one between the result and a material without a quantity. -/
def gapped : List Char :=
  "\n Result: Item 2\r\n\u2028Material1: Item 8".toList

/-- The lines of the block, without the last one. -/
def cutShort : List Char :=
  "\n Result: Item 2\r\n\u2028".toList

theorem gapped_fault_stands :
    readBlock gapped none = .error (.malformed ⟨.notAMaterial "material1" "Item 8", some 4⟩) ∧
      (∃ line, (4, line) ∈ textLines gapped ∧
        Fault.SpeaksOf (4, line) ⟨.notAMaterial "material1" "Item 8", some 4⟩) ∧
      readBlock cutShort none = .error (.malformed ⟨.missingField "material1" none, none⟩) ∧ EndsEarly cutShort := by
  have hgapped : readBlock gapped none = .error (.malformed ⟨.notAMaterial "material1" "Item 8", some 4⟩) := by
    decide +kernel
  have hshort : readBlock cutShort none = .error (.malformed ⟨.missingField "material1" none, none⟩) := by
    decide +kernel
  obtain ⟨-, -, -, -, -, hstands, -⟩ := faults_stand_at_lines gapped none
  obtain ⟨-, -, -, -, -, hends, -⟩ := faults_stand_at_lines cutShort none
  exact ⟨hgapped, (hstands _ hgapped).2 4 rfl, hshort, (hends _ hshort).1.1 rfl⟩

end Crafting.Sample
