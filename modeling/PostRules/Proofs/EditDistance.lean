import PostRules.Text.Distance
import Mathlib.Order.Bounds.Basic
import Mathlib.Data.List.Infix

/-!
# The edit distance is the least number of edits

`Text.editDistance` fills the table of distances between prefixes of two words one row at a
time, keeping only the last row. The main statement, `editDistance_isLeast_edits`, says that
what it returns is the Levenshtein distance: the least number of single-character insertions,
deletions and substitutions, made one after another anywhere in the word, that turn the first
word into the second.

The argument has three parts.

* Edits made in any order can be gathered into an *alignment* read from the left that costs
  no more (`Aligned.of_edits`), and an alignment is itself a sequence of edits. The step is that
  one edit of the first word changes the cost of the best alignment by at most one
  (`Aligned.erase`, `Aligned.insert_left`, `Aligned.replace`).
* The recurrence `levenshtein`, which matches equal first characters outright, is the least
  cost of an alignment (`levenshtein_isLeast`): matching equal first characters is never worse
  than any other first step (`Aligned.keep_optimal`).
* The rows that `editDistance` computes are rows of that recurrence read on both words
  backwards (`nextRow_inits`, `foldl_nextRow`), and the distance does not change when both
  words are reversed (`levenshtein_reverse`).
-/

namespace PostRules.Text

/-- One edit of a word: a character inserted, deleted or replaced anywhere in it. -/
inductive Edit : List Char → List Char → Prop
  | insert (u v : List Char) (c : Char) : Edit (u ++ v) (u ++ c :: v)
  | delete (u v : List Char) (c : Char) : Edit (u ++ c :: v) (u ++ v)
  | substitute (u v : List Char) (c d : Char) : Edit (u ++ c :: v) (u ++ d :: v)

/-- `Edits a b n`: `n` edits made one after another turn `a` into `b`. -/
inductive Edits : List Char → List Char → Nat → Prop
  | refl (a : List Char) : Edits a a 0
  | step {a a' b : List Char} {n : Nat} : Edit a a' → Edits a' b n → Edits a b (n + 1)

/-- `Aligned a b n`: an alignment of `a` with `b`, read from the left, that costs `n`. Each
character of `a` is matched with an equal character of `b`, replaced by one, or deleted, and
characters of `b` may be inserted; everything but a match costs one. -/
inductive Aligned : List Char → List Char → Nat → Prop
  | nil : Aligned [] [] 0
  | keep (c : Char) {a b : List Char} {n : Nat} : Aligned a b n → Aligned (c :: a) (c :: b) n
  | substitute (c d : Char) {a b : List Char} {n : Nat} :
      Aligned a b n → Aligned (c :: a) (d :: b) (n + 1)
  | delete (c : Char) {a b : List Char} {n : Nat} : Aligned a b n → Aligned (c :: a) b (n + 1)
  | insert (d : Char) {a b : List Char} {n : Nat} : Aligned a b n → Aligned a (d :: b) (n + 1)

/-- The Levenshtein recurrence read from the left. Equal first characters are matched outright;
otherwise one edit is added to the cheapest of a substitution, a deletion and an insertion. -/
def levenshtein : List Char → List Char → Nat
  | [], b => b.length
  | _ :: a, [] => a.length + 1
  | c :: a, d :: b =>
    if c = d then levenshtein a b
    else 1 + min (min (levenshtein a b) (levenshtein a (d :: b))) (levenshtein (c :: a) b)
termination_by a b => a.length + b.length

variable {a a' b u v w : List Char} {c d : Char} {n : Nat}

/-! ## Alignments and edits -/

namespace Aligned

/-- A word is aligned with itself at no cost. -/
theorem refl : ∀ a : List Char, Aligned a a 0
  | [] => nil
  | c :: a => keep c (refl a)

/-- Read the other way round, an alignment turns its deletions into insertions. -/
theorem symm (h : Aligned a b n) : Aligned b a n := by
  induction h with
  | nil => exact nil
  | keep c _ ih => exact keep c ih
  | substitute c d _ ih => exact substitute d c ih
  | delete c _ ih => exact insert c ih
  | insert d _ ih => exact delete d ih

/-- An alignment costs at least what the second word is longer. -/
theorem length_le (h : Aligned a b n) : b.length ≤ a.length + n := by
  induction h with
  | nil => simp
  | keep c _ ih => simp; omega
  | substitute c d _ ih => simp; omega
  | delete c _ ih => simp; omega
  | insert d _ ih => simp; omega

/-! Each of the three lemmas below follows the alignment to the place where the first word is
changed; before that place the alignment is kept step for step. -/

/-- A character put into the first word is deleted, at a cost of one. -/
theorem insert_left (h : Aligned w b n) (hw : w = u ++ v) : Aligned (u ++ c :: v) b (n + 1) := by
  induction h generalizing u with
  | nil =>
    obtain ⟨rfl, rfl⟩ := List.append_eq_nil_iff.1 hw.symm
    exact delete c nil
  | keep d h ih =>
    cases u with
    | nil => subst hw; exact delete c (keep d h)
    | cons e u => obtain ⟨rfl, rfl⟩ := List.cons.inj hw; exact keep d (ih rfl)
  | substitute d e h ih =>
    cases u with
    | nil => subst hw; exact delete c (substitute d e h)
    | cons f u => obtain ⟨rfl, rfl⟩ := List.cons.inj hw; exact substitute d e (ih rfl)
  | delete d h ih =>
    cases u with
    | nil => subst hw; exact delete c (delete d h)
    | cons f u => obtain ⟨rfl, rfl⟩ := List.cons.inj hw; exact delete d (ih rfl)
  | insert e h ih => exact insert e (ih hw)

/-- Erasing a character of the first word costs at most one more: what the character was
matched with or replaced by is inserted instead, and a deletion of it is dropped. -/
theorem erase (h : Aligned w b n) (hw : w = u ++ c :: v) : ∃ m ≤ n + 1, Aligned (u ++ v) b m := by
  induction h generalizing u with
  | nil => simp at hw
  | keep d h ih =>
    cases u with
    | nil => obtain ⟨rfl, rfl⟩ := List.cons.inj hw; exact ⟨_, le_refl _, insert d h⟩
    | cons e u =>
      obtain ⟨rfl, rfl⟩ := List.cons.inj hw
      obtain ⟨m, hm, h'⟩ := ih rfl
      exact ⟨m, hm, keep d h'⟩
  | substitute d e h ih =>
    cases u with
    | nil => obtain ⟨rfl, rfl⟩ := List.cons.inj hw; exact ⟨_, by omega, insert e h⟩
    | cons f u =>
      obtain ⟨rfl, rfl⟩ := List.cons.inj hw
      obtain ⟨m, hm, h'⟩ := ih rfl
      exact ⟨m + 1, by omega, substitute d e h'⟩
  | delete d h ih =>
    cases u with
    | nil => obtain ⟨rfl, rfl⟩ := List.cons.inj hw; exact ⟨_, by omega, h⟩
    | cons f u =>
      obtain ⟨rfl, rfl⟩ := List.cons.inj hw
      obtain ⟨m, hm, h'⟩ := ih rfl
      exact ⟨m + 1, by omega, delete d h'⟩
  | insert e h ih =>
    obtain ⟨m, hm, h'⟩ := ih hw
    exact ⟨m + 1, by omega, insert e h'⟩

/-- Replacing a character of the first word costs at most one more. -/
theorem replace (h : Aligned w b n) (hw : w = u ++ c :: v) :
    ∃ m ≤ n + 1, Aligned (u ++ d :: v) b m := by
  induction h generalizing u with
  | nil => simp at hw
  | keep e h ih =>
    cases u with
    | nil => obtain ⟨rfl, rfl⟩ := List.cons.inj hw; exact ⟨_, le_refl _, substitute d e h⟩
    | cons f u =>
      obtain ⟨rfl, rfl⟩ := List.cons.inj hw
      obtain ⟨m, hm, h'⟩ := ih rfl
      exact ⟨m, hm, keep e h'⟩
  | substitute e f h ih =>
    cases u with
    | nil => obtain ⟨rfl, rfl⟩ := List.cons.inj hw; exact ⟨_, by omega, substitute d f h⟩
    | cons g u =>
      obtain ⟨rfl, rfl⟩ := List.cons.inj hw
      obtain ⟨m, hm, h'⟩ := ih rfl
      exact ⟨m + 1, by omega, substitute e f h'⟩
  | delete e h ih =>
    cases u with
    | nil => obtain ⟨rfl, rfl⟩ := List.cons.inj hw; exact ⟨_, by omega, delete d h⟩
    | cons f u =>
      obtain ⟨rfl, rfl⟩ := List.cons.inj hw
      obtain ⟨m, hm, h'⟩ := ih rfl
      exact ⟨m + 1, by omega, delete e h'⟩
  | insert e h ih =>
    obtain ⟨m, hm, h'⟩ := ih hw
    exact ⟨m + 1, by omega, insert e h'⟩

/-- One edit of the first word changes the cost of the best alignment by at most one. -/
theorem of_edit (e : Edit a a') (h : Aligned a' b n) : ∃ m ≤ n + 1, Aligned a b m := by
  cases e with
  | insert u v c => exact erase h rfl
  | delete u v c => exact ⟨n + 1, le_refl _, insert_left h rfl⟩
  | substitute u v c d => exact replace h rfl

/-- Edits made in any order can be gathered into an alignment that costs no more. -/
theorem of_edits (h : Edits a b n) : ∃ m ≤ n, Aligned a b m := by
  induction h with
  | refl a => exact ⟨0, le_refl _, Aligned.refl a⟩
  | step e _ ih =>
    obtain ⟨m, hm, h'⟩ := ih
    obtain ⟨k, hk, h''⟩ := of_edit e h'
    exact ⟨k, by omega, h''⟩

/-- When the first characters agree, matching them is never worse than any other first step. -/
theorem keep_optimal (h : Aligned (c :: a) (c :: b) n) : ∃ m ≤ n, Aligned a b m := by
  cases h with
  | keep _ h => exact ⟨n, le_refl _, h⟩
  | substitute _ _ h => exact ⟨_, by omega, h⟩
  | @delete _ _ _ _ h =>
    exact (erase h.symm (show c :: b = [] ++ c :: b from rfl)).imp fun _ ⟨hm, h'⟩ => ⟨hm, h'.symm⟩
  | insert _ h => exact erase h (show c :: a = [] ++ c :: a from rfl)

end Aligned

/-- An edit read backwards on both words is an edit. -/
theorem Edit.reverse (e : Edit a b) : Edit a.reverse b.reverse := by
  cases e with
  | insert u v c => simpa using Edit.insert v.reverse u.reverse c
  | delete u v c => simpa using Edit.delete v.reverse u.reverse c
  | substitute u v c d => simpa using Edit.substitute v.reverse u.reverse c d

namespace Edits

/-- Edits of two words are edits of the words with one character put in front. -/
theorem cons (c : Char) (h : Edits a b n) : Edits (c :: a) (c :: b) n := by
  induction h with
  | refl a => exact refl _
  | step e _ ih =>
    refine step ?_ ih
    cases e with
    | insert u v d => exact Edit.insert (c :: u) v d
    | delete u v d => exact Edit.delete (c :: u) v d
    | substitute u v d e => exact Edit.substitute (c :: u) v d e

/-- An alignment is a sequence of edits, one for each of its steps that is not a match. -/
theorem of_aligned (h : Aligned a b n) : Edits a b n := by
  induction h with
  | nil => exact refl []
  | keep c _ ih => exact ih.cons c
  | @substitute c d a _ _ _ ih => exact step (Edit.substitute [] a c d) (ih.cons d)
  | @delete c a _ _ _ ih => exact step (Edit.delete [] a c) ih
  | @insert d a _ _ _ ih => exact step (Edit.insert [] a d) (ih.cons d)

/-- Edits between two words are edits, of the same number, between the words reversed. -/
theorem reverse (h : Edits a b n) : Edits a.reverse b.reverse n := by
  induction h with
  | refl a => exact refl _
  | step e _ ih => exact step e.reverse ih

end Edits

/-! ## The recurrence -/

/-- The distance from the empty word is the other word's length. -/
theorem levenshtein_nil_left (b : List Char) : levenshtein [] b = b.length := by
  simp [levenshtein]

/-- The distance to the empty word is the word's length. -/
theorem levenshtein_cons_nil (c : Char) (a : List Char) :
    levenshtein (c :: a) [] = a.length + 1 := by
  simp [levenshtein]

/-- The distance of two words with first characters: the distance of their rests when the characters
agree, else one more than the least of the three ways to go on. -/
theorem levenshtein_cons_cons (c d : Char) (a b : List Char) :
    levenshtein (c :: a) (d :: b) = if c = d then levenshtein a b
      else 1 + min (min (levenshtein a b) (levenshtein a (d :: b))) (levenshtein (c :: a) b) := by
  rw [levenshtein]

/-- The empty word aligns with any word by inserting its characters, at the cost of its length. -/
theorem aligned_inserts : ∀ b : List Char, Aligned [] b b.length
  | [] => .nil
  | d :: b => .insert d (aligned_inserts b)

/-- The recurrence is the cost of an alignment. -/
theorem aligned_levenshtein : ∀ a b : List Char, Aligned a b (levenshtein a b)
  | [], b => by rw [levenshtein_nil_left]; exact aligned_inserts b
  | c :: a, [] => by
    rw [levenshtein_cons_nil]
    exact .delete c (by simpa [levenshtein_nil_left] using (aligned_inserts a).symm)
  | c :: a, d :: b => by
    rw [levenshtein_cons_cons]
    split
    · next h => subst h; exact .keep c (aligned_levenshtein a b)
    · have hs := Aligned.substitute c d (aligned_levenshtein a b)
      have hd := Aligned.delete c (aligned_levenshtein a (d :: b))
      have hi := Aligned.insert d (aligned_levenshtein (c :: a) b)
      generalize levenshtein a b = x at hs ⊢
      generalize levenshtein a (d :: b) = y at hd ⊢
      generalize levenshtein (c :: a) b = z at hi ⊢
      -- the cheapest first step is one of the three
      have hmin : 1 + min (min x y) z = x + 1 ∨ 1 + min (min x y) z = y + 1 ∨
          1 + min (min x y) z = z + 1 := by omega
      rcases hmin with h | h | h <;> rw [h] <;> assumption

/-- No alignment costs less than the recurrence. -/
theorem levenshtein_le_of_aligned :
    ∀ {a b : List Char} {n : Nat}, Aligned a b n → levenshtein a b ≤ n
  | [], b, n, h => by simpa [levenshtein_nil_left] using h.length_le
  | c :: a, [], n, h => by simpa [levenshtein_cons_nil] using h.symm.length_le
  | c :: a, d :: b, n, h => by
    rw [levenshtein_cons_cons]
    split
    · next hcd =>
      subst hcd
      obtain ⟨m, hm, h'⟩ := h.keep_optimal
      exact (levenshtein_le_of_aligned h').trans hm
    · next hcd =>
      -- the alignment starts with one of the three steps the recurrence compares
      cases h with
      | keep => exact absurd rfl hcd
      | substitute _ _ h => have := levenshtein_le_of_aligned h; omega
      | delete _ h => have := levenshtein_le_of_aligned h; omega
      | insert _ h => have := levenshtein_le_of_aligned h; omega

/-- The recurrence gives the least number of edits that turn one word into the other. -/
theorem levenshtein_isLeast (a b : List Char) : IsLeast {n | Edits a b n} (levenshtein a b) := by
  refine ⟨Edits.of_aligned (aligned_levenshtein a b), fun n h => ?_⟩
  obtain ⟨m, hm, h'⟩ := Aligned.of_edits h
  exact (levenshtein_le_of_aligned h').trans hm

/-- Two words are at distance zero exactly when they are equal. -/
theorem levenshtein_eq_zero_iff {a b : List Char} : levenshtein a b = 0 ↔ a = b := by
  constructor
  · intro h
    have hmem : Edits a b 0 := h ▸ (levenshtein_isLeast a b).1
    cases hmem with
    | refl => rfl
  · rintro rfl
    exact Nat.le_zero.1 ((levenshtein_isLeast a a).2 (Edits.refl a))

/-- Reading both words backwards does not change their distance. -/
theorem levenshtein_reverse (a b : List Char) :
    levenshtein a.reverse b.reverse = levenshtein a b := by
  refine (levenshtein_isLeast a.reverse b.reverse).unique ?_
  have hset : {n | Edits a.reverse b.reverse n} = {n | Edits a b n} := by
    ext n
    exact ⟨fun h => by simpa using h.reverse, Edits.reverse⟩
  rw [hset]
  exact levenshtein_isLeast a b

/-! ## The rows -/

/-- The table entry for the prefixes `x` and `y`: their distance, by the recurrence on the two
prefixes read backwards, so that the recurrence looks at their last characters. -/
def prefixDistance (x y : List Char) : Nat := levenshtein x.reverse y.reverse

/-- The empty prefix is at the other prefix's length. -/
theorem prefixDistance_nil_left (y : List Char) : prefixDistance [] y = y.length := by
  simp [prefixDistance, levenshtein_nil_left]

/-- A prefix is at its length from the empty prefix. -/
theorem prefixDistance_append_nil (x : List Char) (c : Char) :
    prefixDistance (x ++ [c]) [] = x.length + 1 := by
  simp [prefixDistance, levenshtein_cons_nil]

/-- The recurrence of the table, on the last characters of two prefixes. -/
theorem prefixDistance_append_append (x y : List Char) (c d : Char) :
    prefixDistance (x ++ [c]) (y ++ [d]) = if c = d then prefixDistance x y
      else 1 + min (min (prefixDistance x y) (prefixDistance x (y ++ [d])))
        (prefixDistance (x ++ [c]) y) := by
  simp [prefixDistance, levenshtein_cons_cons]

/-- The prefixes of a word start with the empty one. -/
theorem inits_map_eq_cons {β : Type} (l : List Char) (g : List Char → β) :
    l.inits.map g = g [] :: l.inits.tail.map g := by
  cases l <;> rfl

/-- The lengths of the prefixes of a word are zero up to its length. -/
theorem inits_map_length (b : List Char) : b.inits.map List.length = List.range (b.length + 1) := by
  induction b with
  | nil => rfl
  | cons d b ih =>
    rw [List.inits_cons, List.map_cons, List.map_map, List.length_cons, List.range_succ_eq_map,
      ← ih, List.map_map]
    rfl

/-- The last prefix of a word is the word itself. -/
theorem getLast?_inits (b : List Char) : b.inits.getLast? = some b := by
  induction b with
  | nil => rfl
  | cons d b ih =>
    rw [List.inits_cons, inits_map_eq_cons, List.getLast?_cons_cons, ← inits_map_eq_cons,
      List.getLast?_map, ih]
    rfl

/-- One call of `nextRow` turns the row of the prefix `x` into the row of `x ++ [c]`, over the
part `ds` of the second word that follows its prefix `y`. -/
theorem nextRow_inits (c : Char) (x : List Char) :
    ∀ (ds y : List Char), nextRow c ds (ds.inits.map fun t => prefixDistance x (y ++ t))
      (prefixDistance (x ++ [c]) y) = ds.inits.map fun t => prefixDistance (x ++ [c]) (y ++ t)
  | [], y => by simp [nextRow]
  | d :: ds, y => by
    have ih := nextRow_inits c x ds (y ++ [d])
    rw [inits_map_eq_cons ds] at ih
    simp only [List.append_assoc, List.singleton_append, List.append_nil] at ih
    -- the entry written here is the one the recurrence asks for
    have here : (if (c == d) = true then prefixDistance x y
        else 1 + min (min (prefixDistance x y) (prefixDistance x (y ++ [d])))
          (prefixDistance (x ++ [c]) y)) = prefixDistance (x ++ [c]) (y ++ [d]) := by
      rw [prefixDistance_append_append]; simp only [beq_iff_eq]
    simp only [List.inits_cons, List.map_cons, List.map_map, Function.comp_def, List.append_nil]
    rw [inits_map_eq_cons ds, nextRow, here, ih]

/-- After the prefix `x` of the first word, the row holds the distances from `x` to every prefix
of the second. -/
theorem foldl_nextRow (b x : List Char) :
    (x.zipIdx 1).foldl (fun row (c, i) => nextRow c b row i) (List.range (b.length + 1)) =
      b.inits.map (prefixDistance x) := by
  induction x using List.reverseRecOn with
  | nil =>
    rw [← inits_map_length]
    simp [prefixDistance_nil_left]
  | append_singleton x c ih =>
    rw [List.zipIdx_append, List.foldl_append, ih]
    have step := nextRow_inits c x b []
    simp only [List.nil_append, prefixDistance_append_nil] at step
    simp only [List.zipIdx_cons, List.zipIdx_nil, List.foldl_cons, List.foldl_nil]
    rw [Nat.add_comm 1 x.length]
    exact step

/-- The rows compute the Levenshtein recurrence. -/
theorem editDistance_eq_levenshtein (a b : List Char) : editDistance a b = levenshtein a b := by
  rw [editDistance]
  simp only
  rw [foldl_nextRow, List.getLast?_map, getLast?_inits]
  simp [prefixDistance, levenshtein_reverse]

example : editDistance "kitten".toList "sitting".toList = 3 := by decide

/-- The edit distance of two words is the least number of single-character insertions, deletions
and substitutions that turn the first into the second. -/
theorem editDistance_isLeast_edits (a b : List Char) :
    IsLeast {n | Edits a b n} (editDistance a b) := by
  rw [editDistance_eq_levenshtein]
  exact levenshtein_isLeast a b

end PostRules.Text
