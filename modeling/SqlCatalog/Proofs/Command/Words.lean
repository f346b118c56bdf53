import SqlCatalog.Command.Line
import SqlCatalog.Proofs.Text.Run
/-!
# What a command line is made of

The tokens behind a command come from items: options, each in one of its two
forms, and plain tokens. The tokens of items are read as the words of these items
(`words_flatMap_tokens`), and tokens that are read without help or complaint come
from items (`exists_items`).
-/
namespace SqlCatalog.Command

/-- The token starts like an option. -/
def Dashed (token : String) : Prop := token.toList.head? = some '-'

theorem isPrefixOf_iff_dashed {token : String} :
    "-".toList.isPrefixOf token.toList = true ↔ Dashed token := by
  rw [Dashed]
  cases token.toList with
  | nil => simp
  | cons c cs => simpa using (eq_comm : '-' = c ↔ c = '-')

/-! ## Assignments -/

/-- The token for a name with a value. -/
def assignment (p : String × String) : String := p.1 ++ "=" ++ p.2

@[simp] theorem toList_assignment (p : String × String) :
    (assignment p).toList = p.1.toList ++ '=' :: p.2.toList := by
  simp [assignment]

theorem splitAssignment_assignment {p : String × String} (h : '=' ∉ p.1.toList) :
    splitAssignment (assignment p) = some p := by
  have hname : ∀ c ∈ p.1.toList, (c != '=') = true := by
    intro c hc
    simpa using fun heq : c = '=' => h (heq ▸ hc)
  simp [splitAssignment, List.dropWhile_append_of_pos hname, List.takeWhile_append_of_pos hname]

theorem of_splitAssignment {token : String} {p : String × String}
    (h : splitAssignment token = some p) : token = assignment p ∧ '=' ∉ p.1.toList := by
  have hparts := token.toList.takeWhile_append_dropWhile (p := (· != '='))
  unfold splitAssignment at h
  cases hrest : token.toList.dropWhile (· != '=') with
  | nil =>
    rw [hrest] at h
    cases h
  | cons c value =>
    rw [hrest] at h hparts
    cases h
    obtain rfl : c = '=' := by
      have hstop := not_of_head?_dropWhile (c := c) (congrArg List.head? hrest)
      simpa using hstop
    refine ⟨String.toList_inj.1 ?_, fun hmem => ?_⟩
    · simp only [toList_assignment, String.toList_ofList]
      exact hparts.symm
    · rw [String.toList_ofList] at hmem
      simpa using List.mem_takeWhile_imp hmem

theorem splitAssignment_eq_some_iff {token : String} {p : String × String} :
    splitAssignment token = some p ↔ token = assignment p ∧ '=' ∉ p.1.toList :=
  ⟨of_splitAssignment, by rintro ⟨rfl, h⟩; exact splitAssignment_assignment h⟩

theorem dashed_assignment {p : String × String} (h : p.1 ≠ "") :
    Dashed (assignment p) ↔ Dashed p.1 := by
  have hne : p.1.toList ≠ [] := fun hnil => h (String.toList_inj.1 hnil)
  obtain ⟨c, cs, hcs⟩ := List.exists_cons_of_ne_nil hne
  simp [Dashed, hcs]

/-! ## Items -/

/-- A part of a command line. -/
inductive Item
  /-- An option with its value in the next token. -/
  | spaced (flag value : String)
  /-- An option with its value in the same token. -/
  | joined (flag value : String)
  | plain (token : String)

namespace Item

def tokens : Item → List String
  | spaced flag value => [flag, value]
  | joined flag value => [assignment (flag, value)]
  | plain token => [token]

/-- How an item is read. -/
def word : Item → Word
  | spaced flag value | joined flag value => .option flag value
  | plain token => .plain token

def option? : Item → Option (String × String)
  | spaced flag value | joined flag value => some (flag, value)
  | plain _ => none

def plain? : Item → Option String
  | spaced .. | joined .. => none
  | plain token => some token

/-- An item of a command with these flags. -/
def Fits (flags : List String) : Item → Prop
  | spaced flag _ | joined flag _ => flag ∈ flags
  | plain token => ¬Dashed token

end Item

/-- The options of a command line with their values, in either form. -/
def options (items : List Item) : List (String × String) := items.filterMap Item.option?

/-- What is left of a command line without its options. -/
def plains (items : List Item) : List String := items.filterMap Item.plain?

section

variable (flag value token : String) (items : List Item)

@[simp] theorem options_spaced :
    options (.spaced flag value :: items) = (flag, value) :: options items := rfl

@[simp] theorem options_joined :
    options (.joined flag value :: items) = (flag, value) :: options items := rfl

@[simp] theorem options_plain : options (.plain token :: items) = options items := rfl

@[simp] theorem plains_spaced : plains (.spaced flag value :: items) = plains items := rfl

@[simp] theorem plains_joined : plains (.joined flag value :: items) = plains items := rfl

@[simp] theorem plains_plain : plains (.plain token :: items) = token :: plains items := rfl

end

theorem fits_iff {flags : List String} {items : List Item} :
    (∀ x ∈ items, x.Fits flags) ↔
      (∀ o ∈ options items, o.1 ∈ flags) ∧ ∀ token ∈ plains items, ¬Dashed token := by
  induction items with
  | nil => simp [options, plains]
  | cons x items ih =>
    rw [List.forall_mem_cons, ih]
    cases x with
    | spaced flag value | joined flag value => simp [Item.Fits, and_assoc]
    | plain token => simp [Item.Fits, and_left_comm]

/-! ## Reading -/

/-- Flags look like options, have no value in them and do not ask for help. -/
def AreFlags (flags : List String) : Prop :=
  ∀ flag ∈ flags, Dashed flag ∧ '=' ∉ flag.toList ∧ flag ≠ "-h" ∧ flag ≠ "--help"

/-- Neither a request for help nor a mistake. -/
def Word.Taken : Word → Prop
  | .option .. | .plain _ => True
  | .help | .dangling _ | .unknown _ => False

section

variable {flags : List String} (hflags : AreFlags flags)
include hflags

theorem single_plain {token : String} (h : ¬Dashed token) :
    words.single flags token = .plain token := by
  have hhelp : ¬(token = "-h" ∨ token = "--help") := by
    rintro (rfl | rfl) <;> exact h rfl
  have hflag : token ∉ flags := fun hmem => h (hflags token hmem).1
  have hinline : inlineValue? flags token = none := by
    rw [inlineValue?, Option.filter_eq_none_iff]
    intro p hp hmem
    obtain ⟨rfl, -⟩ := splitAssignment_eq_some_iff.1 hp
    have hname := hflags p.1 (by simpa using hmem)
    have hne : p.1 ≠ "" := by
      rintro heq
      rw [heq] at hname
      cases hname.1
    exact h ((dashed_assignment hne).2 hname.1)
  have hdash : ¬"-".toList.isPrefixOf token.toList = true := mt isPrefixOf_iff_dashed.1 h
  rw [words.single, if_neg hhelp, if_neg (by simpa using hflag), hinline]
  exact if_neg hdash

theorem single_joined {flag : String} (hflag : flag ∈ flags) (value : String) :
    words.single flags (assignment (flag, value)) = .option flag value := by
  have hmem : '=' ∈ (assignment (flag, value)).toList := by simp
  have hhelp : ¬(assignment (flag, value) = "-h" ∨ assignment (flag, value) = "--help") := by
    rintro (heq | heq) <;> rw [heq] at hmem <;> revert hmem <;> decide
  have hno : assignment (flag, value) ∉ flags := fun h => (hflags _ h).2.1 hmem
  have hsplit : splitAssignment (assignment (flag, value)) = some (flag, value) :=
    splitAssignment_assignment (hflags flag hflag).2.1
  simp [words.single, hhelp, hno, inlineValue?, hsplit, Option.filter, hflag]

omit hflags in
theorem words_cons {token : String} (h : token ∉ flags) (rest : List String) :
    words flags (token :: rest) = words.single flags token :: words flags rest := by
  cases rest with
  | nil => rfl
  | cons value rest => simp [words, h]

/-- Items are read one by one, an option in either form alike. -/
theorem words_flatMap_tokens {items : List Item} (h : ∀ x ∈ items, x.Fits flags) :
    words flags (items.flatMap Item.tokens) = items.map Item.word := by
  induction items with
  | nil => rfl
  | cons x items ih =>
    obtain ⟨hx, hitems⟩ := List.forall_mem_cons.1 h
    have ih := ih hitems
    cases x with
    | spaced flag value =>
      have hflag : flag ∈ flags := hx
      simp [Item.tokens, Item.word, words, hflag, ih]
    | joined flag value =>
      have hflag : flag ∈ flags := hx
      have hno : assignment (flag, value) ∉ flags := fun h => (hflags _ h).2.1 (by simp)
      simp only [List.flatMap_cons, Item.tokens, List.singleton_append, List.map_cons, Item.word]
      rw [words_cons hno, single_joined hflags hflag, ih]
    | plain token =>
      have hno : token ∉ flags := fun h => hx (hflags _ h).1
      simp only [List.flatMap_cons, Item.tokens, List.singleton_append, List.map_cons, Item.word]
      rw [words_cons hno, single_plain hflags hx, ih]

omit hflags in
/-- A token that stands for a word on its own. -/
theorem exists_item_of_single {token : String} (h : (words.single flags token).Taken) :
    ∃ x : Item, x.Fits flags ∧ x.tokens = [token] := by
  cases hinline : inlineValue? flags token with
  | some p =>
    obtain ⟨hsplit, hmem⟩ := Option.filter_eq_some_iff.1 hinline
    obtain ⟨rfl, -⟩ := splitAssignment_eq_some_iff.1 hsplit
    exact ⟨.joined p.1 p.2, by simpa [Item.Fits] using hmem, rfl⟩
  | none =>
    simp only [words.single, hinline] at h
    split_ifs at h with hhelp hflag hdash
    · exact h.elim
    · exact h.elim
    · exact h.elim
    · exact ⟨.plain token, mt isPrefixOf_iff_dashed.2 hdash, rfl⟩

omit hflags in
/-- Tokens that are all taken come from items. -/
theorem exists_items {tokens : List String} (h : ∀ w ∈ words flags tokens, w.Taken) :
    ∃ items : List Item, (∀ x ∈ items, x.Fits flags) ∧ tokens = items.flatMap Item.tokens := by
  induction tokens using words.induct flags with
  | case1 => exact ⟨[], nofun, rfl⟩
  | case2 token =>
    obtain ⟨x, hx, htokens⟩ := exists_item_of_single (h _ List.mem_cons_self)
    exact ⟨[x], by simpa using hx, by simp [htokens]⟩
  | case3 flag value rest hflag ih =>
    rw [words, if_pos hflag, List.forall_mem_cons] at h
    obtain ⟨items, hitems, rfl⟩ := ih h.2
    exact ⟨.spaced flag value :: items,
      List.forall_mem_cons.2 ⟨by simpa [Item.Fits] using hflag, hitems⟩, rfl⟩
  | case4 token value rest hflag ih =>
    rw [words_cons (by simpa using hflag), List.forall_mem_cons] at h
    obtain ⟨x, hx, htokens⟩ := exists_item_of_single h.1
    obtain ⟨items, hitems, hrest⟩ := ih h.2
    exact ⟨x :: items, List.forall_mem_cons.2 ⟨hx, hitems⟩, by simp [htokens, hrest]⟩

end

end SqlCatalog.Command
