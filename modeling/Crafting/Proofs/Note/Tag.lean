import Mathlib.Data.Bool.AllAny
import Mathlib.Data.List.Forall2
import Crafting.Note.Tag
import Crafting.Text.Blank

/-!
# The tags of a text

The places of a text where a tag begins, from left to right. Cut where no tag can straddle the cut, a text has the tags
of its two parts; and a part of a text without tags has none either.
-/

namespace Crafting.Note

open Text

/-! ## Characters of tags -/

theorem openTag_eq : openTag = ['<', 'r', 'e', 'c', 'i', 'p', 'e', '>'] := rfl

theorem closeTag_eq : closeTag = ['<', '/', 'r', 'e', 'c', 'i', 'p', 'e', '>'] := rfl

/-- Capitals are shifted, and every other character is left as it is. -/
theorem toLower_cases (c : Char) :
    c.toLower = c ∧ (c.toNat < 'A'.toNat ∨ 'Z'.toNat < c.toNat) ∨
      c.toLower.toNat = c.toNat + 32 ∧ 'A'.toNat ≤ c.toNat ∧ c.toNat ≤ 'Z'.toNat := by
  by_cases hupper : c.val ≥ 'A'.val ∧ c.val ≤ 'Z'.val
  · have hshifted : c.toLower.val = c.val + ('a'.val - 'A'.val) := congrArg Char.val (dif_pos hupper)
    have hval := congrArg UInt32.toNat hshifted
    have hshift : ('a'.val - 'A'.val).toNat = 32 := rfl
    simp only [ge_iff_le, UInt32.le_iff_toNat_le] at hupper
    rw [UInt32.toNat_add, hshift] at hval
    have hlast : 'Z'.val.toNat = 90 := rfl
    refine .inr ⟨?_, hupper⟩
    show c.toLower.val.toNat = c.val.toNat + 32
    omega
  · refine .inl ⟨dif_neg hupper, ?_⟩
    simp only [ge_iff_le, UInt32.le_iff_toNat_le] at hupper
    show c.val.toNat < 'A'.val.toNat ∨ 'Z'.val.toNat < c.val.toNat
    omega

theorem toLower_eq_self {c : Char} (h : c.toNat < 'A'.toNat ∨ 'Z'.toNat < c.toNat) : c.toLower = c := by
  rcases toLower_cases c with ⟨hsame, -⟩ | ⟨-, hupper⟩
  · exact hsame
  · omega

/-- A sign has no other case. -/
theorem eq_of_toLower {t c : Char} (ht : t.toNat < 'A'.toNat) (h : c.toLower = t) : c = t := by
  rcases toLower_cases c with ⟨hsame, -⟩ | ⟨hshifted, hupper⟩
  · rwa [hsame] at h
  · -- A lowered capital comes after all capitals.
    rw [h] at hshifted
    omega

theorem eq_of_matchesLetter {t c : Char} (ht : t.toNat < 'A'.toNat) (h : matchesLetter t c = true) : c = t := by
  have hi : (t == 'i') = false := by
    rw [beq_eq_false_iff_ne]
    rintro rfl
    exact absurd ht (by decide)
  exact eq_of_toLower ht (by simpa [matchesLetter, hi] using h)

theorem matchesLetter_of_isBlank {c : Char} (hc : isBlank c = true) :
    ∀ t ∈ openTag ++ closeTag, matchesLetter t c = false := by
  have hlower : c.toLower = c := by
    refine toLower_eq_self ?_
    simp [isBlank] at hc ⊢
    omega
  have hne : ∀ d, isBlank d = false → c ≠ d := by
    rintro d hd rfl
    exact absurd hc (by simp [hd])
  have htags : ∀ t ∈ openTag ++ closeTag, isBlank t = false := List.all_iff_forall_prop.1 (by decide)
  intro t ht
  simp [matchesLetter, hlower, hne t (htags t ht), hne 'İ' (by decide), hne 'ı' (by decide)]

/-! ## Spelled tags -/

/-- A text that is the tag, up to the case of its letters. -/
def Spells (tag text : List Char) : Prop :=
  List.Forall₂ (fun t c => matchesLetter t c = true) tag text

theorem beginsWith_iff {tag text : List Char} :
    beginsWith tag text = true ↔ ∃ spelled rest, text = spelled ++ rest ∧ Spells tag spelled := by
  induction tag generalizing text with
  | nil => exact ⟨fun _ => ⟨[], text, rfl, .nil⟩, fun _ => rfl⟩
  | cons t tag ih =>
      cases text with
      | nil =>
          refine ⟨fun h => by simp [beginsWith] at h, ?_⟩
          rintro ⟨spelled, rest, heq, hspells⟩
          cases hspells
          cases heq
      | cons c text =>
          rw [beginsWith, Bool.and_eq_true, ih]
          constructor
          · rintro ⟨hc, spelled, rest, rfl, hspells⟩
            exact ⟨c :: spelled, rest, rfl, .cons hc hspells⟩
          · rintro ⟨spelled, rest, heq, hspells⟩
            cases hspells with
            | cons hd hspells =>
                obtain ⟨rfl, rfl⟩ := List.cons.inj heq
                exact ⟨hd, _, rest, rfl, hspells⟩

theorem Spells.beginsWith {tag text : List Char} (h : Spells tag text) (rest : List Char) :
    beginsWith tag (text ++ rest) = true :=
  beginsWith_iff.2 ⟨text, rest, rfl, h⟩

theorem Spells.beginsWith_self {tag text : List Char} (h : Spells tag text) : Note.beginsWith tag text = true :=
  beginsWith_iff.2 ⟨text, [], (List.append_nil text).symm, h⟩

theorem Spells.length {tag text : List Char} (h : Spells tag text) : text.length = tag.length :=
  (List.Forall₂.length_eq h).symm

/-- What stands at the start of a text stands at the start of every longer one. -/
theorem beginsWith_append_left {tag text : List Char} (h : beginsWith tag text = true) (rest : List Char) :
    beginsWith tag (text ++ rest) = true := by
  obtain ⟨spelled, after, rfl, hspells⟩ := beginsWith_iff.1 h
  rw [List.append_assoc]
  exact hspells.beginsWith _

/-! ## Cuts -/

/-- Between the two texts no tag can be under way: a `>` ends a tag, a `<` begins one, and no tag holds a blank. -/
def Apart (front back : List Char) : Prop :=
  (∀ c ∈ front.getLast?, c = '>' ∨ isBlank c = true) ∨ ∀ c ∈ back.head?, c = '<' ∨ isBlank c = true

theorem beginsWith_append_of_head {tag back : List Char} (h : ∀ c ∈ back.head?, ∀ t ∈ tag, matchesLetter t c = false)
    (front : List Char) : beginsWith tag (front ++ back) = beginsWith tag front := by
  induction tag generalizing front with
  | nil => rfl
  | cons t tag ih =>
      cases front with
      | nil =>
          cases back with
          | nil => rfl
          | cons c back => simp [beginsWith, h c rfl t List.mem_cons_self]
      | cons d front =>
          have hrest := ih (fun c hc u hu => h c hc u (List.mem_cons_of_mem _ hu)) front
          rw [List.cons_append, beginsWith, beginsWith, hrest]

theorem beginsWith_append_of_last {tag front : List Char} (hne : front ≠ [])
    (h : ∀ c ∈ front.getLast?, ∀ t ∈ tag.dropLast, matchesLetter t c = false) (back : List Char) :
    beginsWith tag (front ++ back) = beginsWith tag front := by
  induction front generalizing tag with
  | nil => exact absurd rfl hne
  | cons d front ih =>
      cases tag with
      | nil => rfl
      | cons t tag =>
          rw [List.cons_append, beginsWith, beginsWith]
          cases tag with
          | nil => simp [beginsWith]
          | cons u tag =>
              cases front with
              | nil => simp [h d rfl t List.mem_cons_self]
              | cons e front =>
                  -- The last character stays the same, and the rest of the tag has fewer letters before its last.
                  have hlast : ∀ c ∈ (e :: front).getLast?, ∀ v ∈ (u :: tag).dropLast, matchesLetter v c = false := by
                    intro c hc v hv
                    exact h c (by rwa [List.getLast?_cons_cons]) v (List.mem_cons_of_mem _ hv)
                  rw [ih (List.cons_ne_nil _ _) hlast]

theorem beginsWith_append {tag front back : List Char} (htag : tag = openTag ∨ tag = closeTag) (hne : front ≠ [])
    (h : Apart front back) : beginsWith tag (front ++ back) = beginsWith tag front := by
  have hblank : ∀ c, isBlank c = true → ∀ t ∈ tag, matchesLetter t c = false := by
    intro c hc t ht
    refine matchesLetter_of_isBlank hc t (List.mem_append.2 ?_)
    exact htag.imp (fun e => by rwa [e] at ht) fun e => by rwa [e] at ht
  rcases h with hlast | hhead
  · refine beginsWith_append_of_last hne (fun c hc t ht => ?_) back
    rcases hlast c hc with rfl | hc
    · rcases htag with rfl | rfl <;> revert t <;> exact List.all_iff_forall_prop.1 (by decide)
    · exact hblank c hc t (List.dropLast_subset _ ht)
  · obtain ⟨d, front, rfl⟩ := List.exists_cons_of_ne_nil hne
    obtain ⟨t, tail, rfl⟩ : ∃ t tail, tag = t :: tail := by
      rcases htag with rfl | rfl <;> exact ⟨_, _, rfl⟩
    have htail : ∀ c ∈ back.head?, ∀ u ∈ tail, matchesLetter u c = false := by
      intro c hc u hu
      rcases hhead c hc with rfl | hc
      · rcases htag with e | e <;> cases e <;> revert u <;> exact List.all_iff_forall_prop.1 (by decide)
      · exact hblank c hc u (List.mem_cons_of_mem _ hu)
    rw [List.cons_append, beginsWith, beginsWith, beginsWith_append_of_head htail]

/-! ## The tags of a text -/

inductive Tag where
  | opener
  | closer
  deriving DecidableEq

/-- The tag that begins a text, if one does. -/
def tagAt? (text : List Char) : Option Tag :=
  if beginsWith openTag text then some .opener
  else if beginsWith closeTag text then some .closer
  else none

/-- The tags of a note, each with the place where it begins, from left to right. -/
def tags (note : List Char) : List (Nat × Tag) :=
  (List.range note.length).filterMap fun place => (tagAt? (note.drop place)).map (place, ·)

/-- The tag so many places further on. -/
def later (distance : Nat) (tag : Nat × Tag) : Nat × Tag :=
  (tag.1 + distance, tag.2)

/-- The second sign of a tag tells the two apart. -/
theorem not_beginsWith_closeTag {text : List Char} (h : beginsWith openTag text = true) :
    beginsWith closeTag text = false := by
  rw [openTag_eq] at h
  rw [closeTag_eq]
  match text with
  | [] => rfl
  | [c] => simp [beginsWith]
  | c :: d :: rest =>
      simp only [beginsWith, Bool.and_eq_true] at h
      have hslash : matchesLetter '/' d = false := by
        rw [Bool.eq_false_iff]
        intro hd
        have hr := h.2.1
        rw [eq_of_matchesLetter (by decide) hd] at hr
        exact absurd hr (by decide)
      simp [beginsWith, hslash]

theorem tagAt?_eq_opener {text : List Char} : tagAt? text = some .opener ↔ beginsWith openTag text = true := by
  unfold tagAt?
  split
  · rename_i h
    simp [h]
  · rename_i h
    split <;> simp [h]

theorem tagAt?_eq_closer {text : List Char} : tagAt? text = some .closer ↔ beginsWith closeTag text = true := by
  unfold tagAt?
  split
  · rename_i h
    simp [not_beginsWith_closeTag h]
  · split <;> simp_all

theorem tagAt?_eq_none {text : List Char} :
    tagAt? text = none ↔ ¬beginsWith openTag text = true ∧ ¬beginsWith closeTag text = true := by
  unfold tagAt?
  split
  · simp_all
  · split <;> simp_all

theorem tagAt?_append {front back : List Char} (hne : front ≠ []) (h : Apart front back) :
    tagAt? (front ++ back) = tagAt? front := by
  rw [tagAt?, tagAt?, beginsWith_append (.inl rfl) hne h, beginsWith_append (.inr rfl) hne h]

theorem tags_cons (c : Char) (rest : List Char) :
    tags (c :: rest) = ((tagAt? (c :: rest)).map (0, ·)).toList ++ (tags rest).map (later 1) := by
  have hrest : (List.range rest.length).filterMap (fun place => (tagAt? (rest.drop place)).map (place + 1, ·)) =
      (tags rest).map (later 1) := by
    rw [tags, List.map_filterMap]
    refine List.filterMap_congr fun place _ => ?_
    rw [Option.map_map]
    rfl
  rw [tags, List.length_cons, List.range_succ_eq_map, List.filterMap_cons, List.filterMap_map]
  cases htag : tagAt? (c :: rest) <;> simpa [Function.comp_def, htag] using hrest

/-- Cut where no tag is under way, a text has the tags of its two parts. -/
theorem tags_append {front back : List Char} (h : Apart front back) :
    tags (front ++ back) = tags front ++ (tags back).map (later front.length) := by
  induction front with
  | nil => exact (List.map_id' _).symm
  | cons c front ih =>
      have hrest : Apart front back := by
        refine h.imp_left fun hlast d hd => hlast d ?_
        cases front with
        | nil => cases hd
        | cons e front => rwa [List.getLast?_cons_cons]
      have hshift : (later 1 ∘ later front.length) = later (c :: front).length := by
        funext tag
        simp [later, Nat.add_assoc]
      rw [List.cons_append, tags_cons, ← List.cons_append, tagAt?_append (List.cons_ne_nil _ _) h, ih hrest, tags_cons,
        List.map_append, List.map_map, hshift, List.append_assoc]

theorem tags_append_eq_nil {front back : List Char} (h : Apart front back) (hfront : tags front = [])
    (hback : tags back = []) : tags (front ++ back) = [] := by
  rw [tags_append h, hfront, hback]
  rfl

/-- Every tag begins with `<`. -/
theorem tags_eq_nil {text : List Char} (h : '<' ∉ text) : tags text = [] := by
  induction text with
  | nil => rfl
  | cons c rest ih =>
      have hsign : matchesLetter '<' c = false := by
        rw [Bool.eq_false_iff]
        intro hc
        exact h (eq_of_matchesLetter (by decide) hc ▸ List.mem_cons_self)
      have hnone : tagAt? (c :: rest) = none := by
        simp [tagAt?, openTag_eq, closeTag_eq, beginsWith, hsign]
      rw [tags_cons, hnone, ih fun hmem => h (List.mem_cons_of_mem _ hmem)]
      rfl

/-- No tag goes over the end of a line. -/
theorem tags_flatMap_newline {parts : List (List Char)} (h : ∀ part ∈ parts, tags part = []) :
    tags (parts.flatMap (· ++ ['\n'])) = [] := by
  induction parts with
  | nil => rfl
  | cons part rest ih =>
      rw [List.flatMap_cons]
      refine tags_append_eq_nil (.inl fun c hc => ?_) ?_ (ih fun other ho => h other (List.mem_cons_of_mem _ ho))
      · rw [List.getLast?_concat] at hc
        cases hc
        exact .inr (by decide)
      · refine tags_append_eq_nil (.inr fun c hc => ?_) (h part List.mem_cons_self) (tags_eq_nil (by decide))
        cases hc
        exact .inr (by decide)

theorem lt_length_of_mem_tags {note : List Char} {tag : Nat × Tag} (h : tag ∈ tags note) : tag.1 < note.length := by
  obtain ⟨place, hplace, htag⟩ := List.mem_filterMap.1 h
  obtain ⟨kind, -, rfl⟩ := Option.map_eq_some_iff.1 htag
  exact List.mem_range.1 hplace

/-- A part of a text without tags has none either. -/
theorem tags_eq_nil_of_part {part text : List Char} (h : part <:+: text) (htext : tags text = []) : tags part = [] := by
  -- By taking off first what stands before the part and then what stands behind it.
  obtain ⟨front, back, rfl⟩ := h
  rw [List.append_assoc] at htext
  have hrest : tags (part ++ back) = [] := by
    induction front with
    | nil => exact htext
    | cons c front ih =>
        rw [List.cons_append, tags_cons, List.append_eq_nil_iff, List.map_eq_nil_iff] at htext
        exact ih htext.2
  clear htext
  induction part with
  | nil => rfl
  | cons c part ih =>
      rw [List.cons_append, tags_cons, List.append_eq_nil_iff, List.map_eq_nil_iff] at hrest
      rw [tags_cons, ih hrest.2]
      have hnone : tagAt? (c :: part) = none := by
        cases htag : tagAt? (c :: part) with
        | none => rfl
        | some tag =>
            have hlonger : tagAt? (c :: (part ++ back)) = some tag := by
              cases tag with
              | opener => exact tagAt?_eq_opener.2 (beginsWith_append_left (tagAt?_eq_opener.1 htag) back)
              | closer => exact tagAt?_eq_closer.2 (beginsWith_append_left (tagAt?_eq_closer.1 htag) back)
            rw [hlonger] at hrest
            cases hrest.1
      rw [hnone]
      rfl

/-! ## The tags around a spelled tag -/

theorem Spells.not_mem {tag text : List Char} (h : Spells tag text) {c : Char}
    (hc : ∀ t ∈ tag, matchesLetter t c = false) : c ∉ text := by
  induction h with
  | nil => exact List.not_mem_nil
  | @cons t d tag text hd _ ih =>
      intro hmem
      rcases List.mem_cons.1 hmem with rfl | hmem
      · exact absurd hd (by simp [hc t List.mem_cons_self])
      · exact ih (fun u hu => hc u (List.mem_cons_of_mem _ hu)) hmem

theorem Spells.getLast? {tag text : List Char} (h : Spells tag text) (htag : tag.getLast? = some '>') :
    text.getLast? = some '>' := by
  induction h with
  | nil => cases htag
  | @cons t c tag text hc h ih =>
      cases h with
      | nil =>
          cases htag
          rw [eq_of_matchesLetter (by decide) hc]
          rfl
      | cons hd h => exact ih htag

/-- A spelled tag holds one tag, itself. -/
theorem Spells.tags {tag text : List Char} {kind : Tag} (h : Spells tag text)
    (htag : tag = openTag ∧ kind = .opener ∨ tag = closeTag ∧ kind = .closer) : tags text = [(0, kind)] := by
  have hkind : tagAt? text = some kind := by
    rcases htag with ⟨rfl, rfl⟩ | ⟨rfl, rfl⟩
    · exact tagAt?_eq_opener.2 h.beginsWith_self
    · exact tagAt?_eq_closer.2 h.beginsWith_self
  cases h with
  | nil => rcases htag with ⟨h, -⟩ | ⟨h, -⟩ <;> cases h
  | @cons t c tail rest hc h =>
      have hsigns : ∀ u ∈ tail, matchesLetter u '<' = false := by
        rcases htag with ⟨e, -⟩ | ⟨e, -⟩ <;> cases e <;> exact List.all_iff_forall_prop.1 (by decide)
      rw [tags_cons, hkind, tags_eq_nil (Spells.not_mem h hsigns)]
      rfl

theorem apart_of_getLast? {front : List Char} (h : front.getLast? = some '>') (back : List Char) : Apart front back := by
  refine .inl fun c hc => .inl ?_
  rw [h] at hc
  exact (Option.some.inj hc).symm

theorem apart_closer {closer : List Char} (h : Spells closeTag closer) (before after : List Char) :
    Apart (before ++ closer) after := by
  refine apart_of_getLast? ?_ after
  rw [List.getLast?_append, h.getLast? rfl]
  rfl

theorem apart_of_beginsWith {back : List Char} (h : beginsWith openTag back = true ∨ beginsWith closeTag back = true)
    (front : List Char) : Apart front back := by
  refine .inr fun c hc => .inl ?_
  cases back with
  | nil => cases hc
  | cons d back =>
      cases hc
      rw [openTag_eq, closeTag_eq] at h
      simp only [beginsWith, Bool.and_eq_true] at h
      exact eq_of_matchesLetter (by decide) (h.elim (·.1) (·.1))

theorem Spells.tags_append_opener {opener : List Char} (h : Spells openTag opener) (rest : List Char) :
    Note.tags (opener ++ rest) = (0, .opener) :: (Note.tags rest).map (later openTag.length) := by
  rw [tags_append (apart_of_getLast? (h.getLast? rfl) rest), h.tags (.inl ⟨rfl, rfl⟩), h.length]
  rfl

end Crafting.Note
