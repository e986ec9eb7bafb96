import Crafting.Proofs.Console
import Crafting.Proofs.Text.Sigma

/-!
# Searching by a piece of a name

The search lowers the text and each name as a whole, so a capital sigma at the end of a word is lowered to another
letter than one inside a word. Whatever piece of a name is looked for, it is found in the first name that has it, letter
case aside, unless a sigma of that piece may end a word.
-/

namespace Crafting.Catalog

/-! ## The first place -/

/-- The place is that of the first recipe of which this holds. -/
def FirstPlace (recipes : List Recipe) (p : Recipe → Prop) (place : Nat) : Prop :=
  (∃ recipe, recipes[place]? = some recipe ∧ p recipe) ∧
    ∀ earlier < place, ∀ recipe, recipes[earlier]? = some recipe → ¬p recipe

section

variable {p q : Recipe → Prop} {recipe : Recipe} {rest recipes : List Recipe} {place : Nat}

theorem firstPlace_cons_zero : FirstPlace (recipe :: rest) p 0 ↔ p recipe := by
  simp [FirstPlace]

theorem firstPlace_cons_succ : FirstPlace (recipe :: rest) p (place + 1) ↔ ¬p recipe ∧ FirstPlace rest p place := by
  constructor
  · rintro ⟨hfound, hnone⟩
    exact ⟨hnone 0 (Nat.succ_pos _) recipe rfl, hfound, fun earlier hearlier => hnone (earlier + 1) (by omega)⟩
  · rintro ⟨hnot, hfound, hnone⟩
    refine ⟨hfound, fun earlier hearlier => ?_⟩
    cases earlier with
    | zero =>
        rintro _ ⟨⟩
        exact hnot
    | succ earlier => exact hnone earlier (by omega)

theorem head_iff_of_firstPlace (h : FirstPlace (recipe :: rest) p place) : p recipe ↔ place = 0 := by
  cases place with
  | zero => exact iff_of_true (firstPlace_cons_zero.1 h) rfl
  | succ place => exact iff_of_false (firstPlace_cons_succ.1 h).1 (Nat.succ_ne_zero place)

theorem exists_firstPlace (h : ∃ recipe ∈ recipes, p recipe) : ∃ place, FirstPlace recipes p place := by
  induction recipes with
  | nil =>
      obtain ⟨_, hmem, -⟩ := h
      cases hmem
  | cons first rest ih =>
      by_cases hfirst : p first
      · exact ⟨0, firstPlace_cons_zero.2 hfirst⟩
      · obtain ⟨recipe, hmem, hrecipe⟩ := h
        rcases List.mem_cons.1 hmem with rfl | hrest
        · exact absurd hrecipe hfirst
        · obtain ⟨place, hplace⟩ := ih ⟨recipe, hrest, hrecipe⟩
          exact ⟨place + 1, firstPlace_cons_succ.2 ⟨hfirst, hplace⟩⟩

end

/-! ## What is found -/

/-- The result's name is that text. -/
def Names (registry : Registry) (recipe : Recipe) (name : String) : Prop :=
  registry.nameOf recipe.result = .string name

/-- The name of the result has the text in it once both are lowered in that way. The blanks around the text do not
count. -/
def HasPiece (registry : Registry) (lower : String → String) (text : String) (recipe : Recipe) : Prop :=
  ∃ name, Names registry recipe name ∧ (lower text.trimBlanks).toList <:+: (lower name).toList

/-- Any piece of the name of a recipe is found, unless it is blank: it is found at the first place where the name has
it, with each letter lowered by itself. -/
def FindsPieces (registry : Registry) (recipes : List Recipe) (text : String) : Prop :=
  text.trimBlanks ≠ "" → ∀ recipe ∈ recipes, ∀ name, Names registry recipe name → text.toList <:+: name.toList →
    ∃ place, find? registry recipes text = .ok (some place) ∧
      FirstPlace recipes (HasPiece registry String.loweredByLetter text) place

theorem hasPiece_iff {registry : Registry} {lower : String → String} {text name : String} {recipe : Recipe}
    (hname : Names registry recipe name) :
    HasPiece registry lower text recipe ↔ (lower text.trimBlanks).toList <:+: (lower name).toList := by
  refine ⟨fun ⟨other, hother, hpiece⟩ => ?_, fun hpiece => ⟨name, hname, hpiece⟩⟩
  cases hname.symm.trans hother
  exact hpiece

theorem isEmpty_lowered {text : String} (h : text ≠ "") : text.lowered.isEmpty = false := by
  have hletters : text.toList ≠ [] := mt String.toList_eq_nil_iff.1 h
  have hlowered := Text.lowerAfter_ne_nil hletters []
  simpa [String.lowered] using hlowered

theorem toList_loweredByLetter (text : String) : text.loweredByLetter.toList = Text.lowerEach text.toList :=
  String.toList_ofList

theorem toList_lowered (text : String) : text.lowered.toList = Text.lowerAfter [] text.toList :=
  String.toList_ofList

section

variable {registry : Registry} (hnames : ∀ ref, ∃ name, registry.nameOf ref = .string name)

include hnames

/-- The search goes by the names as they are lowered as a whole. -/
theorem findFrom_eq_some_iff {text : String} {start found : Nat} {recipes : List Recipe} :
    findFrom registry text.trimBlanks.lowered.toList start recipes = .ok (some found) ↔
      ∃ place, found = start + place ∧ FirstPlace recipes (HasPiece registry String.lowered text) place := by
  induction recipes generalizing start with
  | nil => simp [findFrom, FirstPlace]
  | cons recipe rest ih =>
      obtain ⟨name, hname⟩ := hnames recipe.result
      have hpiece : HasPiece registry String.lowered text recipe ↔ _ := hasPiece_iff hname
      rw [← Text.holds_iff] at hpiece
      simp only [findFrom, hname, Json.parts?, List.any_cons, List.any_nil, Bool.or_false]
      -- The search ends at this recipe, or a place of the rest is one further on here.
      by_cases hhas : HasPiece registry String.lowered text recipe
      · rw [if_pos (hpiece.1 hhas), Except.ok.injEq, Option.some.injEq]
        constructor
        · rintro rfl
          exact ⟨0, rfl, firstPlace_cons_zero.2 hhas⟩
        · rintro ⟨place, rfl, hplace⟩
          cases place with
          | zero => rfl
          | succ place => exact absurd hhas (firstPlace_cons_succ.1 hplace).1
      · rw [if_neg (mt hpiece.2 hhas), ih]
        constructor
        · rintro ⟨place, rfl, hplace⟩
          exact ⟨place + 1, by omega, firstPlace_cons_succ.2 ⟨hhas, hplace⟩⟩
        · rintro ⟨place, rfl, hplace⟩
          cases place with
          | zero => exact absurd (firstPlace_cons_zero.1 hplace) hhas
          | succ place => exact ⟨place, by omega, (firstPlace_cons_succ.1 hplace).2⟩

theorem find?_eq_some_iff {text : String} (htext : text.trimBlanks ≠ "") {recipes : List Recipe} {place : Nat} :
    find? registry recipes text = .ok (some place) ↔
      FirstPlace recipes (HasPiece registry String.lowered text) place := by
  simp only [find?, isEmpty_lowered htext, Bool.false_eq_true, if_false, findFrom_eq_some_iff hnames, Nat.zero_add,
    exists_eq_left']

/-- Where no sigma of the text may end a word, any piece of a name is found, whatever the recipes. -/
theorem findsPieces_of_safe {text : String} (hsafe : ¬Text.MayEndWord text.trimBlanks.toList) (recipes : List Recipe) :
    FindsPieces registry recipes text := by
  intro htext recipe hrecipe name hname hpiece
  have hsame : HasPiece registry String.lowered text = HasPiece registry String.loweredByLetter text := by
    funext recipe
    refine propext (exists_congr fun name => and_congr_right fun _ => ?_)
    rw [toList_lowered, toList_lowered, toList_loweredByLetter, toList_loweredByLetter]
    exact Text.infix_lowerAfter_iff hsafe name.toList
  have hhas : HasPiece registry String.loweredByLetter text recipe := by
    refine ⟨name, hname, ?_⟩
    have htrimmed : text.trimBlanks.toList <:+: name.toList := by
      rw [String.trimBlanks, String.toList_ofList]
      exact (Text.infix_trim text.toList).trans hpiece
    rw [toList_loweredByLetter, toList_loweredByLetter]
    exact Text.infix_lowerEach htrimmed
  obtain ⟨place, hplace⟩ := exists_firstPlace ⟨recipe, hrecipe, hhas⟩
  refine ⟨place, (find?_eq_some_iff hnames htext).2 ?_, hplace⟩
  rw [hsame]
  exact hplace

end

/-! ## A catalog of two goods -/

def firstGood : EntityRef :=
  ⟨.item, 1, Nat.one_pos⟩

def secondGood : EntityRef :=
  ⟨.item, 2, Nat.two_pos⟩

def goodsNote : String :=
  "<recipe>\nResult: Item 1\nMaterial1: Item 1, 1\n</recipe><recipe>\nResult: Item 2\nMaterial1: Item 1, 1\n</recipe>"

def firstEntity (name : String) : Entity where
  ref := firstGood
  name := .string name
  note := .string goodsNote

def secondEntity (name : String) : Entity where
  ref := secondGood
  name := .string name

/-- Two goods of these names that are both made of the first one. -/
def goods (first second : String) : Registry where
  items := [firstEntity first, secondEntity second]

def goodRecipe (good : EntityRef) : Recipe where
  result := good
  materials := [⟨firstGood, 1, Nat.one_pos⟩]
  source := firstGood

def goodsRecipes : List Recipe :=
  [goodRecipe firstGood, goodRecipe secondGood]

theorem names_goods (first second : String) (kind : Kind) :
    ∀ entity ∈ (goods first second).table kind, ∃ name, entity.name = .string name := by
  cases kind with
  | item => exact List.forall_mem_cons.2 ⟨⟨first, rfl⟩, List.forall_mem_singleton.2 ⟨second, rfl⟩⟩
  | weapon | armor | state => exact List.forall_mem_nil _

theorem goods_known (first second : String) : ∀ recipe ∈ goodsRecipes, unresolved (goods first second) recipe = [] :=
  List.forall_mem_cons.2 ⟨rfl, List.forall_mem_singleton.2 rfl⟩

/-- The catalog of the goods does not hang on their names. -/
theorem build_goods (first second : String) :
    (build (goods first second) (fun _ => pure true) .every ()).value = .ok goodsRecipes := by
  have hread : (Note.recipesIn .every goodsNote (some firstGood) ()).value = .ok goodsRecipes := by
    decide +kernel
  have htruthy : (Json.string goodsNote).isTruthy = true := by decide +kernel
  have hvoid : (Json.string "").isTruthy = false := by decide +kernel
  have hfirst : (declared .every (firstEntity first) ()).value = .ok goodsRecipes :=
    declared_eq_ok_iff.2 (.inr ⟨goodsNote, rfl, htruthy, hread⟩)
  have hsecond : (declared .every (secondEntity second) ()).value = .ok [] := declared_eq_ok_iff.2 (.inl ⟨hvoid, rfl⟩)
  have hcraftable : (goods first second).craftable = [firstEntity first, secondEntity second] := rfl
  have hknown : known (goods first second) .every [firstEntity first, secondEntity second] = goodsRecipes := by
    simp only [known, List.flatMap_cons, List.flatMap_nil, declaredBy, hfirst, hsecond]
    rfl
  have hsees : ∀ recipe, (fun _ => pure true : Recipe → Act Unit Bool) recipe () = ⟨.ok true, (), []⟩ := fun _ => rfl
  have hreports : Reports (goods first second) (firstEntity first) (declaredBy .every (firstEntity first)) := by
    rw [declaredBy_of_ok hfirst]
    exact fun recipe hrecipe hunknown => absurd (goods_known first second recipe hrecipe) hunknown
  have hnothing : Reports (goods first second) (secondEntity second) (declaredBy .every (secondEntity second)) := by
    rw [declaredBy_of_ok hsecond]
    exact List.forall_mem_nil _
  rw [build_eq_ok_iff hsees, Readable, hcraftable, hknown]
  refine ⟨List.forall_mem_cons.2 ⟨⟨⟨_, hfirst⟩, hreports⟩, ?_⟩, fun _ _ => ⟨true, rfl⟩, rfl⟩
  exact List.forall_mem_singleton.2 ⟨⟨_, hsecond⟩, hnothing⟩

/-! ## Complete searches -/

/-- In every catalog where names are texts any piece of a name is found at the first place that has it, letter case
aside, just when no sigma of that piece may end a word. -/
theorem finds_pieces_iff (text : String) :
    (∀ (σ : Type) (registry : Registry) (sees : Recipe → Act σ Bool) (mode : Note.Mode) (s : σ) (recipes : List Recipe),
      (∀ kind, ∀ entity ∈ registry.table kind, ∃ name, entity.name = .string name) →
      (build registry sees mode s).value = .ok recipes → FindsPieces registry recipes text) ↔
    ¬Text.MayEndWord text.trimBlanks.toList := by
  constructor
  · intro hall hends
    have htext : text.trimBlanks ≠ "" := by
      obtain ⟨before, c, after, hsplit, -⟩ := hends
      intro hempty
      rw [hempty] at hsplit
      exact List.append_ne_nil_of_right_ne_nil _ (List.cons_ne_nil _ _) hsplit.symm
    -- The good that comes first has a name in which only one way of looking finds the text; the other is named by it.
    obtain ⟨name, hname⟩ := Text.exists_disagree hends
    have hnames := Registry.exists_nameOf (names_goods (.ofList name) text)
    obtain ⟨place, hfound, hfirst⟩ := hall Unit _ _ _ () goodsRecipes (names_goods (.ofList name) text)
      (build_goods (.ofList name) text) htext _ (List.mem_cons_of_mem _ List.mem_cons_self) text rfl List.infix_rfl
    have hagree := (head_iff_of_firstPlace ((find?_eq_some_iff hnames htext).1 hfound)).trans
      (head_iff_of_firstPlace hfirst).symm
    have hnamed : Names (goods (.ofList name) text) (goodRecipe firstGood) (.ofList name) := rfl
    rw [hasPiece_iff hnamed, hasPiece_iff hnamed, toList_lowered, toList_lowered, toList_loweredByLetter,
      toList_loweredByLetter, String.toList_ofList] at hagree
    exact hname hagree
  · intro hsafe σ registry sees mode s recipes hnames _
    exact findsPieces_of_safe (Registry.exists_nameOf hnames) hsafe recipes

/-- A piece that ends within a word, looked for in capitals. -/
example : "ΟΔΟΣ".toList <:+: "ΟΔΟΣΗΜΟ".toList ∧ find? (goods "ΟΔΟΣΗΜΟ" "Map") goodsRecipes "ΟΔΟΣ" = .ok none := by
  decide +kernel

end Crafting.Catalog
