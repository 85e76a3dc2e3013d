import PostRules.Rule.Predicate

/-!
# The calls of a lazy evaluation

Custom tests run as effects (`Predicate.evaluateWith`), in a state monad whose state they may
read and change, for instance a shared count of their calls. The main statement,
`evaluateWith_calls_reached`, says what such an evaluation does for every tree, every post and
every way of running the tests: it calls the tests of the custom nodes it reaches, each once, from
left to right, and nothing else, and what it returns is the value of the tree under the answers
those calls gave.

A custom node is named by its position, the path of branches from the root (`Site`). A node is
reached (`reaches`) when every conjunction above it whose right side it is in had a matching left
side, and every disjunction a failing one. Which nodes are reached depends on the answers, so both
are stated for an assignment of answers to positions, which the evaluation produces.
-/

namespace PostRules

namespace Predicate

/-- A step from a node to one of its children. -/
inductive Branch where
  | left
  | right
  | inner
  deriving DecidableEq, Repr

/-- A custom node of a tree: its position, and its name and test. -/
structure Site where
  path : List Branch
  name : String
  test : Post → Bool

/-- The same node seen from one level higher, below the branch `b`. -/
def Site.under (b : Branch) (c : Site) : Site :=
  { c with path := b :: c.path }

/-- The custom nodes of a tree, from left to right. -/
def sites : Predicate → List Site
  | .and l r | .or l r => l.sites.map (Site.under .left) ++ r.sites.map (Site.under .right)
  | .not q => q.sites.map (Site.under .inner)
  | .custom name test => [⟨[], name, test⟩]
  | _ => []

/-- The value of a tree when the custom node at each position answers `ans` of its position. -/
def valueWith (ans : List Branch → Bool) (p : Post) : Predicate → Bool
  | .identity => true
  | .leaf l => l.evaluate p
  | .and l r =>
    l.valueWith (fun π => ans (.left :: π)) p && r.valueWith (fun π => ans (.right :: π)) p
  | .or l r =>
    l.valueWith (fun π => ans (.left :: π)) p || r.valueWith (fun π => ans (.right :: π)) p
  | .not q => !q.valueWith (fun π => ans (.inner :: π)) p
  | .custom _ _ => ans []

/-- Whether lazy evaluation under the answers `ans` gets to the position `π`: the right side of a
conjunction only after a matching left side, of a disjunction only after a failing one. -/
def reaches (ans : List Branch → Bool) (p : Post) : Predicate → List Branch → Bool
  | _, [] => true
  | .and l _, .left :: π | .or l _, .left :: π => l.reaches (fun π => ans (.left :: π)) p π
  | .and l r, .right :: π =>
    l.valueWith (fun π => ans (.left :: π)) p && r.reaches (fun π => ans (.right :: π)) p π
  | .or l r, .right :: π =>
    !l.valueWith (fun π => ans (.left :: π)) p && r.reaches (fun π => ans (.right :: π)) p π
  | .not q, .inner :: π => q.reaches (fun π => ans (.inner :: π)) p π
  | _, _ => false

/-- The custom nodes that lazy evaluation under the answers `ans` gets to, from left to right. -/
def reached (ans : List Branch → Bool) (p : Post) (q : Predicate) : List Site :=
  q.sites.filter fun c => q.reaches ans p c.path

section Positions

variable (p : Post)

/-- Answers to the positions of a junction, from answers to the positions of each side. -/
def Branch.join (onLeft onRight : List Branch → Bool) : List Branch → Bool
  | .left :: π => onLeft π
  | .right :: π => onRight π
  | _ => false

/-- Joined answers, read below the left branch, are the answers of the left side. -/
theorem Branch.join_left (onLeft onRight : List Branch → Bool) :
    (fun π => Branch.join onLeft onRight (.left :: π)) = onLeft := rfl

/-- Joined answers, read below the right branch, are the answers of the right side. -/
theorem Branch.join_right (onLeft onRight : List Branch → Bool) :
    (fun π => Branch.join onLeft onRight (.right :: π)) = onRight := rfl

/-- A conjunction reaches the custom nodes its left side reaches and, when the left side holds,
those its right side reaches, each seen below its branch. -/
theorem reached_and (ans : List Branch → Bool) (l r : Predicate) :
    (Predicate.and l r).reached ans p =
      (l.reached (fun π => ans (.left :: π)) p).map (Site.under .left) ++
        if l.valueWith (fun π => ans (.left :: π)) p then
          (r.reached (fun π => ans (.right :: π)) p).map (Site.under .right)
        else [] := by
  simp only [reached, sites, List.filter_append, List.filter_map]
  -- the positions below a side are read from the side's own root
  have hleft : (fun c => (Predicate.and l r).reaches ans p c.path) ∘ Site.under .left =
      fun c => l.reaches (fun π => ans (.left :: π)) p c.path := rfl
  have hright : (fun c => (Predicate.and l r).reaches ans p c.path) ∘ Site.under .right =
      fun c => l.valueWith (fun π => ans (.left :: π)) p &&
        r.reaches (fun π => ans (.right :: π)) p c.path := rfl
  rw [hleft, hright]
  cases l.valueWith (fun π => ans (.left :: π)) p <;> simp

/-- A disjunction reaches the custom nodes its left side reaches and, when the left side fails,
those its right side reaches, each seen below its branch. -/
theorem reached_or (ans : List Branch → Bool) (l r : Predicate) :
    (Predicate.or l r).reached ans p =
      (l.reached (fun π => ans (.left :: π)) p).map (Site.under .left) ++
        if l.valueWith (fun π => ans (.left :: π)) p then []
        else (r.reached (fun π => ans (.right :: π)) p).map (Site.under .right) := by
  simp only [reached, sites, List.filter_append, List.filter_map]
  -- the positions below a side are read from the side's own root
  have hleft : (fun c => (Predicate.or l r).reaches ans p c.path) ∘ Site.under .left =
      fun c => l.reaches (fun π => ans (.left :: π)) p c.path := rfl
  have hright : (fun c => (Predicate.or l r).reaches ans p c.path) ∘ Site.under .right =
      fun c => !l.valueWith (fun π => ans (.left :: π)) p &&
        r.reaches (fun π => ans (.right :: π)) p c.path := rfl
  rw [hleft, hright]
  cases l.valueWith (fun π => ans (.left :: π)) p <;> simp

/-- A negation reaches the custom nodes its inner tree reaches, seen below its branch. -/
theorem reached_not (ans : List Branch → Bool) (q : Predicate) :
    (Predicate.not q).reached ans p =
      (q.reached (fun π => ans (.inner :: π)) p).map (Site.under .inner) := by
  simp only [reached, sites, List.filter_map]
  rfl

/-- The value of a tree depends only on the answers of the nodes that lazy evaluation reaches. -/
theorem valueWith_congr_reached {ans ans' : List Branch → Bool} (q : Predicate)
    (h : ∀ c ∈ q.reached ans p, ans' c.path = ans c.path) : q.valueWith ans' p = q.valueWith ans p := by
  induction q generalizing ans ans' with
  | identity | leaf => rfl
  | and l r ihl ihr =>
    rw [reached_and] at h
    have hl : l.valueWith (fun π => ans' (.left :: π)) p = l.valueWith (fun π => ans (.left :: π)) p :=
      ihl fun c hc => h (c.under .left) (List.mem_append_left _ (List.mem_map_of_mem hc))
    rw [valueWith, valueWith, hl]
    -- the right side counts only when the left side matched, and then its nodes are reached
    cases hmatch : l.valueWith (fun π => ans (.left :: π)) p with
    | false => rfl
    | true =>
      rw [hmatch, if_pos rfl] at h
      have hr : r.valueWith (fun π => ans' (.right :: π)) p =
          r.valueWith (fun π => ans (.right :: π)) p :=
        ihr fun c hc => h (c.under .right) (List.mem_append_right _ (List.mem_map_of_mem hc))
      rw [hr]
  | or l r ihl ihr =>
    rw [reached_or] at h
    have hl : l.valueWith (fun π => ans' (.left :: π)) p = l.valueWith (fun π => ans (.left :: π)) p :=
      ihl fun c hc => h (c.under .left) (List.mem_append_left _ (List.mem_map_of_mem hc))
    rw [valueWith, valueWith, hl]
    cases hmatch : l.valueWith (fun π => ans (.left :: π)) p with
    | true => rfl
    | false =>
      rw [hmatch, if_neg Bool.false_ne_true] at h
      have hr : r.valueWith (fun π => ans' (.right :: π)) p =
          r.valueWith (fun π => ans (.right :: π)) p :=
        ihr fun c hc => h (c.under .right) (List.mem_append_right _ (List.mem_map_of_mem hc))
      rw [hr]
  | not q ih =>
    rw [reached_not] at h
    have hq : q.valueWith (fun π => ans' (.inner :: π)) p =
        q.valueWith (fun π => ans (.inner :: π)) p :=
      ih fun c hc => h (c.under .inner) (List.mem_map_of_mem hc)
    rw [valueWith, valueWith, hq]
  | custom name test => exact h ⟨[], name, test⟩ (List.mem_singleton_self _)

/-- Adding a branch in front of every position keeps them apart. -/
theorem nodup_map_cons {b : Branch} {paths : List (List Branch)} (h : paths.Nodup) :
    (paths.map (List.cons b)).Nodup :=
  List.Pairwise.map (List.cons b) (fun _ _ hne heq => hne (List.cons.inj heq).2) h

/-- Seeing nodes below a branch puts the branch in front of each of their positions. -/
theorem map_path_under (b : Branch) (cs : List Site) :
    (cs.map (Site.under b)).map Site.path = (cs.map Site.path).map (List.cons b) := by
  simp only [List.map_map]
  rfl

/-- No two custom nodes of a tree share a position. -/
theorem nodup_sites_path (q : Predicate) : (q.sites.map Site.path).Nodup := by
  induction q with
  | identity | leaf => exact List.nodup_nil
  | and l r ihl ihr | or l r ihl ihr =>
    rw [sites, List.map_append, map_path_under, map_path_under, List.nodup_append]
    refine ⟨nodup_map_cons ihl, nodup_map_cons ihr, ?_⟩
    -- positions on the two sides start with different branches
    simp
  | not q ih =>
    rw [sites, map_path_under]
    exact nodup_map_cons ih
  | custom => simp [sites]

end Positions

section Calls

variable {σ : Type} (run : String → (Post → Bool) → Post → StateM σ Bool) (p : Post)

/-- `Calls run p ans cs s s'`: running the tests of the nodes `cs` on `p`, one after another from
the state `s`, ends in the state `s'`, and the node at each position `π` answers `ans π`. -/
inductive Calls (ans : List Branch → Bool) : List Site → σ → σ → Prop
  | nil (s : σ) : Calls ans [] s s
  | cons {c : Site} {cs : List Site} {s t s' : σ} :
      (run c.name c.test p).run s = (ans c.path, t) → Calls ans cs t s' → Calls ans (c :: cs) s s'

/-- A conjunction runs its left side, then its right side only when the left side holds, from the
state the left side left. -/
theorem run_evaluateWith_and (l r : Predicate) (s : σ) :
    ((Predicate.and l r).evaluateWith run p).run s =
      if ((l.evaluateWith run p).run s).1 then (r.evaluateWith run p).run ((l.evaluateWith run p).run s).2
      else (false, ((l.evaluateWith run p).run s).2) := by
  rw [evaluateWith, StateT.run_bind]
  rcases (l.evaluateWith run p).run s with ⟨_ | _, t⟩ <;> rfl

/-- A disjunction runs its left side, then its right side only when the left side fails, from the
state the left side left. -/
theorem run_evaluateWith_or (l r : Predicate) (s : σ) :
    ((Predicate.or l r).evaluateWith run p).run s =
      if ((l.evaluateWith run p).run s).1 then (true, ((l.evaluateWith run p).run s).2)
      else (r.evaluateWith run p).run ((l.evaluateWith run p).run s).2 := by
  rw [evaluateWith, StateT.run_bind]
  rcases (l.evaluateWith run p).run s with ⟨_ | _, t⟩ <;> rfl

/-- A negation runs its inner tree and negates the answer, keeping the state the run left. -/
theorem run_evaluateWith_not (q : Predicate) (s : σ) :
    ((Predicate.not q).evaluateWith run p).run s =
      (!((q.evaluateWith run p).run s).1, ((q.evaluateWith run p).run s).2) := rfl

/-- Calls that go on from where other calls ended are, together, the calls of both lists of nodes in
order. -/
theorem Calls.append {ans : List Branch → Bool} {xs ys : List Site} {s t s' : σ}
    (hxs : Calls run p ans xs s t) (hys : Calls run p ans ys t s') :
    Calls run p ans (xs ++ ys) s s' := by
  induction hxs with
  | nil => exact hys
  | cons hc _ ih => exact .cons hc (ih hys)

/-- Calls of nodes answered below a branch are the calls of the same nodes seen from one level
higher. -/
theorem Calls.under {ans : List Branch → Bool} {b : Branch} {cs : List Site} {s s' : σ}
    (h : Calls run p (fun π => ans (b :: π)) cs s s') :
    Calls run p ans (cs.map (Site.under b)) s s' := by
  induction h with
  | nil => exact .nil _
  | cons hc _ ih => exact .cons hc ih

/-- One evaluation, from the state `s`, makes the calls of the nodes it reaches under some answers
`ans`, in order and answered by `ans`, and returns the value of the tree under `ans`. -/
theorem evaluateWith_calls (q : Predicate) (s : σ) :
    ∃ ans, Calls run p ans (q.reached ans p) s ((q.evaluateWith run p).run s).2 ∧
      ((q.evaluateWith run p).run s).1 = q.valueWith ans p := by
  induction q generalizing s with
  | identity => exact ⟨fun _ => false, .nil s, rfl⟩
  | leaf l => exact ⟨fun _ => false, .nil s, rfl⟩
  | and l r ihl ihr =>
    obtain ⟨ansL, hcallsL, hvalueL⟩ := ihl s
    rw [run_evaluateWith_and]
    -- the right side runs, from the state the left side left, only when the left side matched
    cases hleft : ((l.evaluateWith run p).run s).1 with
    | false =>
      have hmatch : l.valueWith ansL p = false := hvalueL ▸ hleft
      refine ⟨Branch.join ansL fun _ => false, ?_, ?_⟩
      · rw [reached_and, Branch.join_left, hmatch, if_neg Bool.false_ne_true, List.append_nil]
        exact Calls.under run p hcallsL
      · rw [valueWith, Branch.join_left, hmatch, Bool.false_and, if_neg Bool.false_ne_true]
    | true =>
      have hmatch : l.valueWith ansL p = true := hvalueL ▸ hleft
      obtain ⟨ansR, hcallsR, hvalueR⟩ := ihr ((l.evaluateWith run p).run s).2
      refine ⟨Branch.join ansL ansR, ?_, ?_⟩
      · rw [reached_and, Branch.join_left, Branch.join_right, hmatch, if_pos rfl]
        exact (Calls.under run p hcallsL).append run p (Calls.under run p hcallsR)
      · rw [valueWith, Branch.join_left, Branch.join_right, hmatch, Bool.true_and, if_pos rfl]
        exact hvalueR
  | or l r ihl ihr =>
    obtain ⟨ansL, hcallsL, hvalueL⟩ := ihl s
    rw [run_evaluateWith_or]
    -- the right side runs only when the left side did not match
    cases hleft : ((l.evaluateWith run p).run s).1 with
    | true =>
      have hmatch : l.valueWith ansL p = true := hvalueL ▸ hleft
      refine ⟨Branch.join ansL fun _ => false, ?_, ?_⟩
      · rw [reached_or, Branch.join_left, hmatch, if_pos rfl, List.append_nil]
        exact Calls.under run p hcallsL
      · rw [valueWith, Branch.join_left, hmatch, Bool.true_or, if_pos rfl]
    | false =>
      have hmatch : l.valueWith ansL p = false := hvalueL ▸ hleft
      obtain ⟨ansR, hcallsR, hvalueR⟩ := ihr ((l.evaluateWith run p).run s).2
      refine ⟨Branch.join ansL ansR, ?_, ?_⟩
      · rw [reached_or, Branch.join_left, Branch.join_right, hmatch, if_neg Bool.false_ne_true]
        exact (Calls.under run p hcallsL).append run p (Calls.under run p hcallsR)
      · rw [valueWith, Branch.join_left, Branch.join_right, hmatch, Bool.false_or,
          if_neg Bool.false_ne_true]
        exact hvalueR
  | not q ih =>
    obtain ⟨ansQ, hcalls, hvalue⟩ := ih s
    -- the positions below a negation all start with the branch to its inner tree
    have hinner : (fun π => (fun π => ansQ π.tail) (Branch.inner :: π)) = ansQ := rfl
    refine ⟨fun π => ansQ π.tail, ?_, ?_⟩
    · rw [reached_not, run_evaluateWith_not, hinner]
      exact Calls.under run p hcalls
    · rw [run_evaluateWith_not, valueWith, hinner, ← hvalue]
  | custom name test =>
    refine ⟨fun _ => ((run name test p).run s).1, ?_, rfl⟩
    exact .cons rfl (.nil _)

/-- For every tree, post and way of running its custom tests in a state monad, evaluation from any
state calls the tests of exactly the custom nodes that lazy evaluation reaches, from left to right
and each once (no two nodes share a position), and what it returns is the value of the tree under
any answers that agree with those calls' answers. -/
theorem evaluateWith_calls_reached (q : Predicate) (s : σ) :
    (q.sites.map Site.path).Nodup ∧
      ∃ ans, Calls run p ans (q.reached ans p) s ((q.evaluateWith run p).run s).2 ∧
        ∀ ans', (∀ c ∈ q.reached ans p, ans' c.path = ans c.path) →
          ((q.evaluateWith run p).run s).1 = q.valueWith ans' p := by
  obtain ⟨ans, hcalls, hvalue⟩ := evaluateWith_calls run p q s
  refine ⟨nodup_sites_path q, ans, hcalls, fun ans' hagree => ?_⟩
  rw [hvalue, valueWith_congr_reached p q hagree]

/-- Counting calls, as a test of a shared counter does: a conjunction whose left test fails calls
only that one. -/
example :
    ((Predicate.and (.custom "a" fun _ => false) (.custom "b" fun _ => true)).evaluateWith
      (fun _ test p => (modify (· + 1) *> pure (test p) : StateM Nat Bool)) default).run 0 =
      (false, 1) := rfl

end Calls

/-- Running a custom test while writing its name at the end of a log. -/
def logged (name : String) (test : Post → Bool) (p : Post) : StateM (List String) Bool := do
  modify (· ++ [name])
  pure (test p)

/-- The logging runner answers as the test and writes the node's name at the end of the log. -/
theorem run_logged (name : String) (test : Post → Bool) (p : Post) (log : List String) :
    (logged name test p).run log = (test p, log ++ [name]) := rfl

/-- Under the logging runner, a run of calls writes the names of its nodes in order, and each
node answers its own test. -/
theorem calls_logged_iff {p : Post} {ans : List Branch → Bool} {cs : List Site}
    {log log' : List String} :
    Calls logged p ans cs log log' ↔
      log' = log ++ cs.map Site.name ∧ ∀ c ∈ cs, ans c.path = c.test p := by
  induction cs generalizing log with
  | nil =>
    constructor
    · rintro ⟨⟩
      simp
    · rintro ⟨rfl, -⟩
      simpa using Calls.nil log
  | cons c cs ih =>
    constructor
    · rintro (_ | ⟨hc, hrest⟩)
      rw [run_logged, Prod.mk.injEq] at hc
      obtain ⟨hlog', hans⟩ := ih.1 hrest
      refine ⟨by rw [hlog', ← hc.2]; simp, ?_⟩
      rintro c' (_ | ⟨_, hc'⟩)
      · exact hc.1.symm
      · exact hans c' hc'
    · rintro ⟨rfl, hans⟩
      have hc : (logged c.name c.test p).run log = (ans c.path, log ++ [c.name]) := by
        rw [run_logged, hans c List.mem_cons_self]
      exact .cons hc (ih.2 ⟨by simp, fun c' hc' => hans c' (List.mem_cons_of_mem _ hc')⟩)

/-- `evaluateTraced` is evaluation with the tests logged: the log grows by its trace. -/
theorem evaluateWith_logged (q : Predicate) (p : Post) (log : List String) :
    (q.evaluateWith logged p).run log = ((q.evaluateTraced p).1, log ++ (q.evaluateTraced p).2) := by
  induction q generalizing log with
  | identity | leaf => simp only [evaluateTraced, List.append_nil]; rfl
  | and l r ihl ihr =>
    rw [run_evaluateWith_and, ihl, evaluateTraced]
    rcases l.evaluateTraced p with ⟨_ | _, ta⟩
    · rfl
    · rw [if_pos rfl, ihr, List.append_assoc]
      rcases r.evaluateTraced p with ⟨b, tb⟩
      rfl
  | or l r ihl ihr =>
    rw [run_evaluateWith_or, ihl, evaluateTraced]
    rcases l.evaluateTraced p with ⟨_ | _, ta⟩
    · rw [if_neg Bool.false_ne_true, ihr, List.append_assoc]
      rcases r.evaluateTraced p with ⟨b, tb⟩
      rfl
    · rfl
  | not q ih =>
    rw [run_evaluateWith_not, ih]
    rfl
  | custom name test => rfl

/-- The trace of `evaluateTraced` names exactly the custom nodes that lazy evaluation reaches under
the answers of their own tests, from left to right, and `evaluate` is the value of the tree under
any answers that agree with those. -/
theorem evaluateTraced_reached (q : Predicate) (p : Post) :
    ∃ ans, (q.evaluateTraced p).2 = (q.reached ans p).map Site.name ∧
      (∀ c ∈ q.reached ans p, ans c.path = c.test p) ∧ q.evaluate p = q.valueWith ans p := by
  obtain ⟨ans, hcalls, hvalue⟩ := evaluateWith_calls logged p q []
  rw [evaluateWith_logged, calls_logged_iff, List.nil_append] at hcalls
  rw [evaluateWith_logged] at hvalue
  exact ⟨ans, hcalls.1, hcalls.2, hvalue⟩

end Predicate

end PostRules
