import Crafting.Proofs.Note.Tag

/-!
# Blocks and neighbouring tags

The blocks that the search from the left finds are the texts between an opener and the closer next to it among the tags
of a note. So the blocks of a note lie apart: cut before an opener or behind a closer, it has those of its two parts.
-/

namespace Crafting.Note

/-! ## Neighbours -/

/-- What stands between an opener and a closer. -/
def enclosed? (note : List Char) : (Nat × Tag) × (Nat × Tag) → Option (List Char)
  | ((start, .opener), (stop, .closer)) => some ((note.take stop).drop (start + openTag.length))
  | _ => none

/-- What stands between each opener and closer that are neighbours in a row of tags. -/
def between (note : List Char) (found : List (Nat × Tag)) : List (List Char) :=
  (found.zip found.tail).filterMap (enclosed? note)

theorem between_cons_cons (note : List Char) (first second : Nat × Tag) (rest : List (Nat × Tag)) :
    between note (first :: second :: rest) =
      (enclosed? note (first, second)).toList ++ between note (second :: rest) := by
  rw [between, List.tail_cons, List.zip_cons_cons, List.filterMap_cons]
  cases enclosed? note (first, second) <;> rfl

theorem between_append (note : List Char) {front back : List (Nat × Tag)}
    (h : (∀ tag ∈ front.getLast?, tag.2 = .closer) ∨ ∀ tag ∈ back.head?, tag.2 = .opener) :
    between note (front ++ back) = between note front ++ between note back := by
  induction front with
  | nil => rfl
  | cons first front ih =>
      cases front with
      | nil =>
          cases back with
          | nil => simp [between]
          | cons second back =>
              have hnone : enclosed? note (first, second) = none := by
                obtain ⟨start, kind⟩ := first
                obtain ⟨stop, kind'⟩ := second
                rcases h with h | h
                · cases h _ rfl
                  rfl
                · cases h _ rfl
                  cases kind <;> rfl
              rw [List.singleton_append, between_cons_cons, hnone]
              rfl
      | cons second front =>
          have hrest := ih (h.imp_left fun hlast tag htag => hlast tag (by rwa [List.getLast?_cons_cons]))
          rw [List.cons_append, List.cons_append, between_cons_cons, ← List.cons_append, hrest, between_cons_cons,
            List.append_assoc]

theorem between_of_le {note : List Char} {found : List (Nat × Tag)} (h : ∀ tag ∈ found, tag.1 ≤ note.length)
    (back : List Char) : between (note ++ back) found = between note found := by
  refine List.filterMap_congr fun pair hpair => ?_
  obtain ⟨⟨start, kind⟩, ⟨stop, kind'⟩⟩ := pair
  have hstop : stop ≤ note.length := h (stop, kind') (List.mem_of_mem_tail (List.of_mem_zip hpair).2)
  cases kind <;> cases kind' <;> simp [enclosed?, List.take_append_of_le_length hstop]

theorem between_later (front note : List Char) (found : List (Nat × Tag)) :
    between (front ++ note) (found.map (later front.length)) = between note found := by
  rw [between, ← List.map_tail, List.zip_map, List.filterMap_map]
  refine List.filterMap_congr fun pair _ => ?_
  obtain ⟨⟨start, kind⟩, ⟨stop, kind'⟩⟩ := pair
  cases kind <;> cases kind' <;> simp only [Function.comp, Prod.map, later, enclosed?]
  rw [Nat.add_comm stop, List.take_length_add_append, Nat.add_comm start, Nat.add_assoc, List.drop_length_add_append]

/-- The texts between the openers and closers of a note that are neighbours among its tags. -/
def enclosed (note : List Char) : List (List Char) :=
  between note (tags note)

theorem enclosed_append {front back : List Char} (hapart : Apart front back)
    (h : (∀ tag ∈ (tags front).getLast?, tag.2 = .closer) ∨ ∀ tag ∈ (tags back).head?, tag.2 = .opener) :
    enclosed (front ++ back) = enclosed front ++ enclosed back := by
  have hseam : (∀ tag ∈ (tags front).getLast?, tag.2 = .closer) ∨
      ∀ tag ∈ ((tags back).map (later front.length)).head?, tag.2 = .opener := by
    refine h.imp_right fun hhead tag htag => ?_
    rw [List.head?_map] at htag
    obtain ⟨first, hfirst, rfl⟩ := Option.map_eq_some_iff.1 htag
    exact hhead first hfirst
  rw [enclosed, tags_append hapart, between_append _ hseam, between_later,
    between_of_le fun tag htag => Nat.le_of_lt (lt_length_of_mem_tags htag)]
  rfl

/-! ## Blocks -/

theorem blocksFrom_eq (skip : Nat) (text : List Char) : blocksFrom skip text = blocks (text.drop skip) := by
  induction text generalizing skip with
  | nil => cases skip <;> rfl
  | cons c rest ih =>
      cases skip with
      | zero => rfl
      | succ skip => exact ih skip

theorem blockAt?_append {opener : List Char} (h : Spells openTag opener) (rest : List Char) :
    blockAt? (opener ++ rest) = bodyOf? rest := by
  rw [blockAt?, if_pos (h.beginsWith rest), ← h.length, List.drop_left]

theorem blocks_cons_of_none {c : Char} {rest : List Char} (h : blockAt? (c :: rest) = none) :
    blocks (c :: rest) = blocks rest := by
  rw [blocks, blocksFrom, h]
  rfl

theorem blocks_of_some {text body : List Char} (h : blockAt? text = some body) :
    blocks text = body :: blocks (text.drop (openTag.length + body.length + closeTag.length)) := by
  cases text with
  | nil => cases h
  | cons c rest =>
      rw [blocks, blocksFrom, h]
      exact congrArg (body :: ·) (blocksFrom_eq _ rest)

theorem bodyOf?_eq_some {text body : List Char} (h : bodyOf? text = some body) :
    ∃ closer rest, text = body ++ (closer ++ rest) ∧ Spells closeTag closer ∧ tags body = [] := by
  induction text generalizing body with
  | nil => cases h
  | cons c text ih =>
      rw [bodyOf?] at h
      split at h
      · rename_i hclose
        cases h
        obtain ⟨closer, rest, htext, hcloser⟩ := beginsWith_iff.1 hclose
        exact ⟨closer, rest, htext, hcloser, rfl⟩
      · split at h
        · cases h
        · rename_i hclose hopen
          obtain ⟨body, hbody, rfl⟩ := Option.map_eq_some_iff.1 h
          obtain ⟨closer, rest, rfl, hcloser, htags⟩ := ih hbody
          refine ⟨closer, rest, rfl, hcloser, ?_⟩
          -- A tag at the start of the body would be one at the start of the text.
          have hnone : tagAt? (c :: body) = none :=
            tagAt?_eq_none.2 ⟨fun hb => hopen (beginsWith_append_left hb _),
              fun hb => hclose (beginsWith_append_left hb _)⟩
          rw [tags_cons, hnone, htags]
          rfl

/-- Where no body is found, the next tag is no closer. -/
theorem bodyOf?_eq_none {text : List Char} (h : bodyOf? text = none) : ∀ tag ∈ (tags text).head?, tag.2 = .opener := by
  induction text with
  | nil => exact fun _ htag => nomatch htag
  | cons c text ih =>
      rw [bodyOf?] at h
      split at h
      · cases h
      · rename_i hclose
        split at h
        · rename_i hopen
          rw [tags_cons, tagAt?_eq_opener.2 hopen]
          rintro tag ⟨⟩
          rfl
        · rename_i hopen
          rw [tags_cons, tagAt?, if_neg hopen, if_neg hclose]
          intro tag htag
          simp only [Option.map_none, Option.toList_none, List.nil_append, List.head?_map] at htag
          obtain ⟨first, hfirst, rfl⟩ := Option.map_eq_some_iff.1 htag
          exact ih (Option.map_eq_none_iff.1 h) first hfirst

theorem bodyOf?_append {body closer : List Char} (hbody : tags body = []) (hcloser : Spells closeTag closer)
    (after : List Char) : bodyOf? (body ++ (closer ++ after)) = some body := by
  have hclose := hcloser.beginsWith after
  induction body with
  | nil =>
      rw [List.nil_append]
      cases hends : closer ++ after with
      | nil => rw [hends] at hclose; cases hclose
      | cons c rest => rw [bodyOf?, ← hends, if_pos hclose]
  | cons c body ih =>
      rw [tags_cons, List.append_eq_nil_iff, List.map_eq_nil_iff] at hbody
      have hnone : tagAt? (c :: (body ++ (closer ++ after))) = none := by
        rw [← List.cons_append, tagAt?_append (List.cons_ne_nil _ _) (apart_of_beginsWith (.inr hclose) _)]
        simpa using hbody.1
      obtain ⟨hopen, hother⟩ := tagAt?_eq_none.1 hnone
      rw [List.cons_append, bodyOf?, if_neg hother, if_neg hopen, ih hbody.2]
      rfl

/-- A block at the start of a note is found, and the search goes on behind it. -/
theorem blocks_block {opener body closer : List Char} (hopener : Spells openTag opener) (hbody : tags body = [])
    (hcloser : Spells closeTag closer) (after : List Char) :
    blocks (opener ++ (body ++ (closer ++ after))) = body :: blocks after := by
  have hfound : blockAt? (opener ++ (body ++ (closer ++ after))) = some body := by
    rw [blockAt?_append hopener, bodyOf?_append hbody hcloser]
  rw [blocks_of_some hfound, ← hopener.length, ← hcloser.length, Nat.add_assoc, List.drop_length_add_append,
    List.drop_length_add_append, List.drop_left]

/-- A note is read from the left: it is empty, or begins with no block, or with one. -/
theorem note_induction {p : List Char → Prop} (nil : p [])
    (other : ∀ c rest, blockAt? (c :: rest) = none → p rest → p (c :: rest))
    (block : ∀ opener body closer after, Spells openTag opener → tags body = [] → Spells closeTag closer → p after →
      p (opener ++ (body ++ (closer ++ after))))
    (note : List Char) : p note := by
  induction hlength : note.length using Nat.strongRecOn generalizing note with
  | ind length ih =>
      cases note with
      | nil => exact nil
      | cons c rest =>
          cases hblock : blockAt? (c :: rest) with
          | none => exact other c rest hblock (ih rest.length (by simp [← hlength]) rest rfl)
          | some body =>
              have hopen : beginsWith openTag (c :: rest) = true := by
                by_contra hopen
                rw [blockAt?, if_neg hopen] at hblock
                cases hblock
              obtain ⟨opener, inner, hnote, hopener⟩ := beginsWith_iff.1 hopen
              rw [hnote, blockAt?_append hopener] at hblock
              obtain ⟨closer, after, rfl, hcloser, hbody⟩ := bodyOf?_eq_some hblock
              rw [hnote] at hlength ⊢
              refine block opener body closer after hopener hbody hcloser (ih after.length ?_ after rfl)
              have hpos : opener.length = 8 := hopener.length
              simp only [List.length_append] at hlength
              omega

theorem between_of_length_le_one (note : List Char) {found : List (Nat × Tag)} (h : found.length ≤ 1) :
    between note found = [] := by
  match found, h with
  | [], _ => rfl
  | [_], _ => rfl

theorem tags_block {opener body closer : List Char} (hopener : Spells openTag opener) (hbody : tags body = [])
    (hcloser : Spells closeTag closer) :
    tags (opener ++ (body ++ closer)) = [(0, .opener), (body.length + openTag.length, .closer)] := by
  rw [hopener.tags_append_opener, tags_append (apart_of_beginsWith (.inr hcloser.beginsWith_self) body), hbody,
    hcloser.tags (.inr ⟨rfl, rfl⟩)]
  simp [later]

theorem enclosed_block {opener body closer : List Char} (hopener : Spells openTag opener) (hbody : tags body = [])
    (hcloser : Spells closeTag closer) : enclosed (opener ++ (body ++ closer)) = [body] := by
  have hbefore : (opener ++ (body ++ closer)).take (body.length + openTag.length) = opener ++ body := by
    rw [← List.append_assoc, ← hopener.length, Nat.add_comm, ← List.length_append, List.take_left]
  rw [enclosed, tags_block hopener hbody hcloser, between_cons_cons, enclosed?, hbefore, Nat.zero_add, ← hopener.length,
    List.drop_left]
  rfl

/-- The blocks of a note are the texts between neighbouring openers and closers. -/
theorem blocks_eq_enclosed (note : List Char) : blocks note = enclosed note := by
  induction note using note_induction with
  | nil => rfl
  | other c rest hnone ih =>
      -- Whatever tag begins the note has no closer next to it.
      have hseam : (∀ tag ∈ (((tagAt? (c :: rest)).map (0, ·)).toList : List (Nat × Tag)).getLast?, tag.2 = .closer) ∨
          ∀ tag ∈ ((tags rest).map (later 1)).head?, tag.2 = .opener := by
        cases htag : tagAt? (c :: rest) with
        | none => exact .inl fun _ h => nomatch h
        | some kind =>
            cases kind with
            | closer => exact .inl fun tag h => by cases h; rfl
            | opener =>
                obtain ⟨opener, inner, hnote, hopener⟩ := beginsWith_iff.1 (tagAt?_eq_opener.1 htag)
                have htags := hopener.tags_append_opener inner
                rw [← hnote, tags_cons, htag] at htags
                have hrest : (tags rest).map (later 1) = (tags inner).map (later openTag.length) :=
                  (List.cons.inj htags).2
                rw [hnote, blockAt?_append hopener] at hnone
                refine .inr fun tag h => ?_
                rw [hrest, List.head?_map] at h
                obtain ⟨first, hfirst, rfl⟩ := Option.map_eq_some_iff.1 h
                exact bodyOf?_eq_none hnone first hfirst
      have hfirst : between (c :: rest) (((tagAt? (c :: rest)).map (0, ·)).toList : List (Nat × Tag)) = [] :=
        between_of_length_le_one _ (by cases tagAt? (c :: rest) <;> simp)
      rw [blocks_cons_of_none hnone, ih, enclosed, enclosed, tags_cons, between_append _ hseam, hfirst, List.nil_append]
      exact (between_later [c] rest (tags rest)).symm
  | block opener body closer after hopener hbody hcloser ih =>
      have hapart : Apart (opener ++ (body ++ closer)) after := by
        rw [← List.append_assoc]
        exact apart_closer hcloser (opener ++ body) after
      have hcloses : ∀ tag ∈ (tags (opener ++ (body ++ closer))).getLast?, tag.2 = .closer := by
        rw [tags_block hopener hbody hcloser]
        rintro tag ⟨⟩
        rfl
      have hnote : opener ++ (body ++ (closer ++ after)) = opener ++ (body ++ closer) ++ after := by
        simp only [List.append_assoc]
      rw [blocks_block hopener hbody hcloser, ih, hnote, enclosed_append hapart (.inl hcloses),
        enclosed_block hopener hbody hcloser]
      rfl

/-- No tag stands in a block. -/
theorem tags_of_mem_blocks {note body : List Char} (h : body ∈ blocks note) : tags body = [] := by
  induction note using note_induction with
  | nil => cases h
  | other c rest hnone ih => exact ih (by rwa [blocks_cons_of_none hnone] at h)
  | block opener inner closer after hopener hinner hcloser ih =>
      rw [blocks_block hopener hinner hcloser] at h
      rcases List.mem_cons.1 h with rfl | hmem
      · exact hinner
      · exact ih hmem

/-- Cut before an opener or behind a closer, a note has the blocks of its two parts. -/
theorem blocks_append {front back : List Char}
    (h : beginsWith openTag back = true ∨ ∃ before closer, front = before ++ closer ∧ Spells closeTag closer) :
    blocks (front ++ back) = blocks front ++ blocks back := by
  have hseam : Apart front back ∧
      ((∀ tag ∈ (tags front).getLast?, tag.2 = .closer) ∨ ∀ tag ∈ (tags back).head?, tag.2 = .opener) := by
    rcases h with hopen | ⟨before, closer, rfl, hcloser⟩
    · obtain ⟨opener, rest, rfl, hopener⟩ := beginsWith_iff.1 hopen
      refine ⟨apart_of_beginsWith (.inl hopen) front, .inr ?_⟩
      rw [hopener.tags_append_opener]
      rintro tag ⟨⟩
      rfl
    · refine ⟨apart_closer hcloser before back, .inl ?_⟩
      rw [tags_append (apart_of_beginsWith (.inr hcloser.beginsWith_self) before), hcloser.tags (.inr ⟨rfl, rfl⟩)]
      intro tag htag
      simp only [List.map_cons, List.map_nil, List.getLast?_append, List.getLast?_singleton] at htag
      cases htag
      rfl
  rw [blocks_eq_enclosed, blocks_eq_enclosed, blocks_eq_enclosed, enclosed_append hseam.1 hseam.2]

end Crafting.Note
