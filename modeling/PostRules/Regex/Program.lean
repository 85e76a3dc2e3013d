import PostRules.Regex.Hir
import PostRules.Regex.Property
import PostRules.Unicode.Ranges

/-!
# Matching

A pattern's meaning is compiled into a program for a nondeterministic machine: each instruction
consumes a character of a set, checks an assertion at the current position, branches, or
accepts. Compilation runs backwards, each piece given the instruction that follows it, so no
instruction is patched except the branch that starts a loop.

The text is searched by running all threads at once, one position at a time: the threads at a
position are closed under assertions and branches (each instruction at most once, so loops that
consume nothing end), a thread that reaches `accept` means a match, and a new thread starts at
every position, since a match may start anywhere.

## Contents

* `Inst`, `Program`, `Program.ofHir`.
* `Look.holds`: when an assertion holds at a position.
* `Program.isMatch`: whether the program matches somewhere in a text.
-/

namespace PostRules.Regex

/-- An instruction. -/
inductive Inst where
  /-- Consume a character in the ranges, then go on at `next`. -/
  | consume (ranges : Array (Nat × Nat)) (next : Nat)
  /-- Go on at `next` if the assertion holds here. -/
  | look (l : Look) (next : Nat)
  /-- Go on at every target. -/
  | split (targets : List Nat)
  /-- The text matches. -/
  | accept
  deriving Inhabited

/-- A program: its instructions, where it starts, and a bound on the steps of following the
threads at one position (each instruction is entered once, from at most every branch target). -/
structure Program where
  insts : Array Inst
  start : Nat
  steps : Nat
  deriving Inhabited

/-- Building a program. -/
abbrev Emit := StateM (Array Inst)

/-- Adds an instruction; gives its place. -/
def emit (i : Inst) : Emit Nat :=
  modifyGet fun a => (a.size, a.push i)

/-- Puts an instruction in a place reserved before. -/
def fill (pc : Nat) (i : Inst) : Emit Unit :=
  modify fun a => a.setIfInBounds pc i

mutual

/-- Compiles a piece to run before `next`; gives where it starts. -/
def compileHir : Hir → Nat → Emit Nat
  | .empty, next => pure next
  | .literal cs, next => compileChars cs next
  | .cls s, next => emit (.consume s.ranges.toArray next)
  | .look l, next => emit (.look l next)
  | .repetition lo hi _ sub, next => do
    let rest ← match hi with
      | none => do
        let loop ← emit (.split [])
        let body ← compileHir sub loop
        fill loop (.split [body, next])
        pure loop
      | some m =>
        (List.range (m - lo)).foldlM (fun acc _ => do
          let body ← compileHir sub acc
          emit (.split [body, next])) next
    (List.range lo).foldlM (fun acc _ => compileHir sub acc) rest
  | .capture _ sub, next => compileHir sub next
  | .concat subs, next => compileSeq subs next
  | .alternation subs, next => do
    let entries ← compileBranches subs next
    emit (.split entries)

/-- Compiles pieces in sequence to run before `next`. -/
def compileSeq : List Hir → Nat → Emit Nat
  | [], next => pure next
  | h :: hs, next => do
    let rest ← compileSeq hs next
    compileHir h rest

/-- Compiles branches, each to run before `next`; gives where each starts. -/
def compileBranches : List Hir → Nat → Emit (List Nat)
  | [], _ => pure []
  | h :: hs, next => do
    let entry ← compileHir h next
    let entries ← compileBranches hs next
    pure (entry :: entries)

/-- Compiles characters in sequence to run before `next`. -/
def compileChars : List Char → Nat → Emit Nat
  | [], next => pure next
  | c :: cs, next => do
    let rest ← compileChars cs next
    emit (.consume #[(c.toNat, c.toNat)] rest)

end

/-- The program of a pattern's meaning. -/
def Program.ofHir (h : Hir) : Program :=
  let run : Emit Nat := do
    let done ← emit .accept
    compileHir h done
  let (start, insts) := run.run #[]
  let targets := insts.foldl (fun n i => match i with
    | .split ts => n + ts.length
    | .look _ _ => n + 1
    | _ => n) 0
  { insts, start, steps := 2 * insts.size + targets + 2 }

/-! ### Assertions -/

/-- The word characters, for searching by halving. -/
def wordTable : Array (Nat × Nat) := perlWord.ranges.toArray

/-- Whether an optional character is a word character, by Unicode's or ASCII's rule. -/
def wordAt (unicode : Bool) : Option Char → Bool
  | some c => if unicode then Unicode.inRanges wordTable c.toNat else isAsciiWordChar c
  | none => false

/-- Whether an assertion holds between `before` and `after`, the characters on either side of
a position (none at the ends of the text). -/
def Look.holds (l : Look) (before after : Option Char) : Bool :=
  match l with
  | .textStart => before.isNone
  | .textEnd => after.isNone
  | .startLF => before.isNone || before == some '\n'
  | .endLF => after.isNone || after == some '\n'
  | .startCRLF =>
    before.isNone || before == some '\n' || (before == some '\r' && after != some '\n')
  | .endCRLF =>
    after.isNone || after == some '\r' || (after == some '\n' && before != some '\r')
  | .wordAscii => wordAt false before != wordAt false after
  | .wordAsciiNegate => wordAt false before == wordAt false after
  | .wordUnicode => wordAt true before != wordAt true after
  | .wordUnicodeNegate => wordAt true before == wordAt true after
  | .wordStartAscii => !wordAt false before && wordAt false after
  | .wordEndAscii => wordAt false before && !wordAt false after
  | .wordStartUnicode => !wordAt true before && wordAt true after
  | .wordEndUnicode => wordAt true before && !wordAt true after
  | .wordStartHalfAscii => !wordAt false before
  | .wordEndHalfAscii => !wordAt false after
  | .wordStartHalfUnicode => !wordAt true before
  | .wordEndHalfUnicode => !wordAt true after

/-! ### Running -/

/-- The threads at a position: the instructions waiting to consume, whether one accepted, and the
instructions already seen. -/
structure Threads where
  waiting : Array Nat := #[]
  accepted : Bool := false
  seen : Array Bool

/-- Follows the threads in `stack` through assertions and branches at a position. -/
def Program.close (p : Program) (before after : Option Char) :
    Nat → List Nat → Threads → Threads
  | 0, _, t => t
  | _ + 1, [], t => t
  | fuel + 1, pc :: stack, t =>
    if t.seen.getD pc true then p.close before after fuel stack t
    else
      let t := { t with seen := t.seen.setIfInBounds pc true }
      match p.insts[pc]? with
      | some (.consume _ _) => p.close before after fuel stack { t with waiting := t.waiting.push pc }
      | some (.look l next) =>
        if l.holds before after then p.close before after fuel (next :: stack) t
        else p.close before after fuel stack t
      | some (.split targets) => p.close before after fuel (targets ++ stack) t
      | some .accept => p.close before after fuel stack { t with accepted := true }
      | none => p.close before after fuel stack t

/-- The instructions the waiting threads go on to after consuming `c`. -/
def Program.step (p : Program) (waiting : Array Nat) (c : Char) : List Nat :=
  waiting.toList.filterMap fun pc =>
    match (p.insts[pc]? : Option Inst) with
    | some (.consume ranges next) => if Unicode.inRanges ranges c.toNat then some next else none
    | _ => none

/-- Runs the threads from position `i` of the text on. -/
def Program.run (p : Program) (text : Array Char) : Nat → Nat → List Nat → Bool
  | 0, _, _ => false
  | fuel + 1, i, current =>
    let before := if i == 0 then none else text[i - 1]?
    let after := text[i]?
    let fresh : Threads := { seen := Array.replicate p.insts.size false }
    let t := p.close before after (p.steps + current.length) (current ++ [p.start]) fresh
    if t.accepted then true
    else match after with
      | none => false
      | some c => p.run text fuel (i + 1) (p.step t.waiting c)

/-- Whether the program matches somewhere in a text. -/
def Program.isMatch (p : Program) (text : String) : Bool :=
  let chars := text.toList.toArray
  p.run chars (chars.size + 1) 0 []

end PostRules.Regex
