import PostRules.Regex.Hir
import Std.Data.HashMap

/-!
# The size of a compiled pattern

A pattern is refused when the automaton compiled from it is too big: the automaton for
searching forwards, or the one for searching backwards, needs more than `sizeLimit` bytes. This
module counts those bytes by building both automata state by state as the compiler does, keeping
only what decides the count:

* every state takes 32 bytes, and a state with transitions on byte ranges 8 more per range;
* a branching state takes 4 bytes more per branch, counted as branches are added to it;
* a class beyond ASCII becomes an automaton over the UTF-8 bytes of its characters. Forwards,
  the byte sequences are added in order to a trie whose finished nodes are shared through a
  table of 10000 slots; backwards, chains of byte ranges share their ends through a table of
  1000 slots. A slot holds the last node put there, so which nodes are shared depends on the
  numbers of the states, and the numbers are kept exactly;
* an alternation of plain strings becomes a trie of their bytes.

The count only grows, so the automaton is too big exactly when the count passes the limit at
some point; building stops there.

## Contents

* `utf8Bytes`, `utf8Sequences`: the UTF-8 form of code points and of ranges of them.
* `tooBig`: whether a pattern's meaning compiles to automata beyond the limit.
-/

namespace PostRules.Regex

/-- The most bytes the automata of a pattern may take. -/
def sizeLimit : Nat := 10 * Nat.pow 2 20

/-! ### UTF-8 -/

/-- The UTF-8 bytes of a code point. -/
def utf8Bytes (n : Nat) : List Nat :=
  if n < 0x80 then [n]
  else if n < 0x800 then [0xC0 + n / 64, 0x80 + n % 64]
  else if n < 0x10000 then [0xE0 + n / 4096, 0x80 + n / 64 % 64, 0x80 + n % 64]
  else [0xF0 + n / 262144, 0x80 + n / 4096 % 64, 0x80 + n / 64 % 64, 0x80 + n % 64]

/-- The greatest code point of `k` UTF-8 bytes. -/
def maxOfWidth : Nat → Nat
  | 1 => 0x7F
  | 2 => 0x7FF
  | 3 => 0xFFFF
  | _ => 0x10FFFF

/-- The sequences of byte ranges whose concatenations are exactly the UTF-8 forms of the code
points from `lo` to `hi`, surrogates left out, in increasing order. A range is split at the
surrogates, at the limits of each width, and where its ends differ in more than their last
bytes, until each part is a product of byte ranges. -/
def utf8Sequences : Nat → Nat → Nat → List (List (Nat × Nat))
  | 0, _, _ => []
  | fuel + 1, lo, hi =>
    if lo < 0xE000 && hi > 0xD7FF then
      utf8Sequences fuel lo 0xD7FF ++ utf8Sequences fuel 0xE000 hi
    else if hi < lo then []
    else
      match [1, 2, 3].find? (fun w => lo ≤ maxOfWidth w && maxOfWidth w < hi) with
      | some w => utf8Sequences fuel lo (maxOfWidth w) ++ utf8Sequences fuel (maxOfWidth w + 1) hi
      | none =>
        if hi ≤ 0x7F then [[(lo, hi)]]
        else
          let split := [1, 2, 3].findSome? fun i =>
            let m := 2 ^ (6 * i) - 1
            if lo / (m + 1) != hi / (m + 1) then
              if lo % (m + 1) != 0 then some (lo ||| m, (lo ||| m) + 1)
              else if hi % (m + 1) != m then some (hi - hi % (m + 1) - 1, hi - hi % (m + 1))
              else none
            else none
          match split with
          | some (a, b) => utf8Sequences fuel lo a ++ utf8Sequences fuel b hi
          | none => [List.zip (utf8Bytes lo) (utf8Bytes hi)]

/-! ### Counting states -/

/-- A transition on a byte range to a state. -/
abbrev Edge := Nat × Nat × Nat

/-- The automaton being counted: its number of states, the bytes its states hold beyond their
fixed size, and which states branch. -/
structure Counter where
  states : Nat := 0
  heap : Nat := 0
  branching : Std.HashMap Nat Unit := {}

/-- Counting, stopping when the limit is passed. -/
abbrev CountM := StateT Counter (Except Unit)

/-- Stops if the automaton has passed the limit. -/
def checkLimit : CountM Unit := do
  let c ← get
  if c.states * 32 + c.heap > sizeLimit then throw ()

/-- Adds a state holding `heap` bytes more; gives its number. -/
def addState (heap : Nat) (branches : Bool := false) : CountM Nat := do
  let c ← get
  let id := c.states
  set { c with
    states := c.states + 1
    heap := c.heap + heap
    branching := if branches then c.branching.insert id () else c.branching }
  checkLimit
  pure id

/-- Connects state `src` to another; a branching state grows by a branch. -/
def connect (src : Nat) : CountM Unit := do
  let c ← get
  if c.branching.contains src then
    set { c with heap := c.heap + 4 }
    checkLimit

/-- The entry and exit of a compiled piece. -/
structure Piece where
  entry : Nat
  exit : Nat

/-- A piece of one state. -/
def single (heap : Nat) : CountM Piece := do
  let id ← addState heap
  pure ⟨id, id⟩

/-- The FNV-1a hash of numbers, reduced to a slot of a table. -/
def slotOf (slots : Nat) (xs : List Nat) : Nat :=
  let h := xs.foldl (fun (h : UInt64) x => (h ^^^ x.toUInt64) * 1099511628211) 14695981039346656037
  (h % slots.toUInt64).toNat

/-! ### Classes forwards -/

/-- A node of the trie of byte sequences not yet turned into a state: its finished transitions
and the range of its last, open one. -/
structure OpenNode where
  edges : List Edge := []
  last : Option (Nat × Nat) := none
  deriving Inhabited

/-- The trie being built for a class: the open nodes from the root down, the table of finished
nodes, and the state every sequence ends at. -/
structure Trie where
  nodes : Array OpenNode
  table : Std.HashMap Nat (List Edge × Nat)
  target : Nat

/-- A node's transitions with its open one closed onto `next`. -/
def OpenNode.close (n : OpenNode) (next : Nat) : List Edge :=
  match n.last with
  | some (a, b) => n.edges ++ [(a, b, next)]
  | none => n.edges

/-- The state of a finished node: one already made for the same transitions in its slot, or a new
one. -/
def finishNode (t : Trie) (edges : List Edge) : CountM (Trie × Nat) := do
  let slot := slotOf 10000 (edges.flatMap fun (a, b, n) => [a, b, n])
  match t.table.get? slot with
  | some (key, id) => if key == edges then return (t, id)
  | none => pure ()
  let id ← addState (8 * edges.length)
  pure ({ t with table := t.table.insert slot (edges, id) }, id)

/-- Finishes the open nodes below depth `keep`, from the deepest up, closing the node at depth
`keep` onto them. -/
def finishBelow (keep : Nat) (t : Trie) : Nat → Nat → CountM Trie
  | 0, _ => pure t
  | fuel + 1, next =>
    if keep + 1 < t.nodes.size then do
      let node := t.nodes.back!
      let t := { t with nodes := t.nodes.pop }
      let (t, id) ← finishNode t (node.close next)
      finishBelow keep t fuel id
    else
      let i := t.nodes.size - 1
      let node := t.nodes[i]!
      pure { t with nodes := t.nodes.set! i { edges := node.close next } }

/-- Adds a byte sequence, which comes after every sequence added before. -/
def addSequence (t : Trie) (seq : List (Nat × Nat)) : CountM Trie := do
  let shared := ((seq.zip t.nodes.toList).takeWhile fun (r, n) => n.last == some r).length
  let t ← finishBelow shared t (t.nodes.size + 1) t.target
  match seq.drop shared with
  | [] => pure t
  | r :: rest =>
    let i := t.nodes.size - 1
    let node := t.nodes[i]!
    let nodes := t.nodes.set! i { node with last := some r }
    pure { t with nodes := nodes ++ (rest.map fun r => ({ last := some r } : OpenNode)).toArray }

/-- The automaton of a class beyond ASCII, forwards. -/
def classForwards (s : CharSet) : CountM Piece := do
  let target ← addState 0
  let seqs := s.ranges.flatMap fun (lo, hi) => utf8Sequences 32 lo hi
  let t ← seqs.foldlM addSequence { nodes := #[{}], table := {}, target }
  let t ← finishBelow 0 t (t.nodes.size + 1) target
  let (_, entry) ← finishNode t (t.nodes[0]!).edges
  pure ⟨entry, target⟩

/-! ### Classes backwards -/

/-- The automaton of a class beyond ASCII, backwards: a branch to a chain of byte ranges per
sequence, chains sharing their ends. -/
def classBackwards (s : CharSet) : CountM Piece := do
  let top ← addState 0 true
  let bottom ← addState 0
  let seqs := s.ranges.flatMap fun (lo, hi) => utf8Sequences 32 lo hi
  let _ ← seqs.foldlM (fun (table : Std.HashMap Nat ((Nat × Nat × Nat) × Nat)) seq => do
    let (table, entry) ← seq.foldlM (fun (acc : Std.HashMap Nat ((Nat × Nat × Nat) × Nat) × Nat)
        (r : Nat × Nat) => do
      let (table, stop) := acc
      let key := (stop, r.1, r.2)
      let slot := slotOf 1000 [stop, r.1, r.2]
      match table.get? slot with
      | some (k, id) => if k == key then return (table, id)
      | none => pure ()
      let id ← addState 0
      pure (table.insert slot (key, id), id)) (table, bottom)
    connect top
    let _ := entry
    pure table) {}
  pure ⟨top, bottom⟩

/-! ### Alternations of strings -/

/-- A node of a trie of strings: its transitions, in groups separated by the string that ends
at the node (the last group still open). -/
structure StringNode where
  edges : Array (Nat × Nat) := #[]
  groups : Array (Nat × Nat) := #[]
  deriving Inhabited

/-- Where the open group of transitions starts. -/
def StringNode.openStart (n : StringNode) : Nat :=
  match n.groups.back? with
  | some (_, stop) => stop
  | none => 0

/-- Whether a string ends at the node and nothing leaves it. -/
def StringNode.isLeaf (n : StringNode) : Bool := n.edges.isEmpty && !n.groups.isEmpty

/-- Adds a string of bytes to the trie; a string that runs into the end of an earlier one is
dropped, since the earlier one is preferred. -/
def addString (nodes : Array StringNode) (bytes : List Nat) : Array StringNode :=
  let step := fun (acc : Array StringNode × Nat × Bool) (b : Nat) =>
    let (nodes, cur, stopped) := acc
    if stopped then acc
    else
      let node := nodes[cur]!
      if node.isLeaf then (nodes, cur, true)
      else
        let start := node.openStart
        match (node.edges.toList.drop start).find? (·.1 == b) with
        | some (_, next) => (nodes, next, false)
        | none =>
          let next := nodes.size
          let before := (node.edges.toList.drop start).filter (·.1 < b)
          let pos := start + before.length
          let edges := (node.edges.toList.take pos ++ [(b, next)] ++ node.edges.toList.drop pos).toArray
          ((nodes.set! cur { node with edges }).push {}, next, false)
  let (nodes, cur, stopped) := bytes.foldl step (nodes, 0, false)
  if stopped then nodes
  else
    let node := nodes[cur]!
    if node.isLeaf then nodes
    else nodes.set! cur { node with groups := node.groups.push (node.openStart, node.edges.size) }

/-- The groups of transitions of a node: the closed ones, then the open one. -/
def StringNode.groupEdges (n : StringNode) : List (List (Nat × Nat)) :=
  (n.groups.toList.map fun (a, b) => (n.edges.toList.drop a).take (b - a)) ++
    [n.edges.toList.drop n.openStart]

/-- Builds the states of a node of the trie of strings; gives its entry. -/
def buildStringNode (nodes : Array StringNode) (final : Nat) : Nat → Nat → CountM Nat
  | 0, _ => pure final
  | fuel + 1, id => do
    let groups := nodes[id]!.groupEdges
    let (branches, _) ← groups.foldlM (fun (acc : List Nat × Bool) group => do
      let (branches, first) := acc
      let branches := if first then branches else branches ++ [final]
      let edges ← group.mapM fun (b, next) => do
        if nodes[next]!.isLeaf then pure (b, b, final)
        else pure (b, b, ← buildStringNode nodes final fuel next)
      if edges.isEmpty then pure (branches, false)
      else
        let s ← addState (8 * edges.length)
        pure (branches ++ [s], false)) ([], true)
    match branches with
    | [one] => pure one
    | bs => addState (4 * bs.length) true

/-- The automaton of an alternation of strings. -/
def stringsAutomaton (strings : List (List Nat)) : CountM Piece := do
  let final ← addState 0
  let nodes := strings.foldl addString #[{}]
  let entry ← buildStringNode nodes final (nodes.size + 1) 0
  pure ⟨entry, final⟩

/-! ### Pieces -/

/-- The UTF-8 bytes of characters. -/
def charBytes (cs : List Char) : List Nat := cs.flatMap fun c => utf8Bytes c.toNat

/-- Counts the rest of a string of bytes. -/
def countBytesFrom (acc : Piece) : List Nat → CountM Piece
  | [] => pure acc
  | _ :: bs => do
    let p ← single 0
    connect acc.exit
    countBytesFrom ⟨acc.entry, p.exit⟩ bs

/-- Counts the states of a string of bytes. -/
def countBytes : List Nat → CountM Piece
  | [] => single 0
  | _ :: bs => do
    let first ← single 0
    countBytesFrom first bs

/-- The strings of an alternation whose branches are all strings. -/
def allLiterals : List Hir → Option (List (List Char))
  | [] => some []
  | .literal cs :: rest => (allLiterals rest).map (cs :: ·)
  | _ => none

mutual

/-- Counts a piece; `back` for the automaton that searches backwards, which keeps no groups. -/
def countHir (back : Bool) : Hir → CountM Piece
  | .empty => single 0
  | .literal cs => countBytes (if back then (charBytes cs).reverse else charBytes cs)
  | .cls s =>
    if s.isAscii then do
      let exit ← addState 0
      let entry ← addState (8 * s.ranges.length)
      pure ⟨entry, exit⟩
    else if back then classBackwards s
    else classForwards s
  | .look _ => single 0
  | .repetition lo hi greedy sub =>
    match lo, hi with
    | 0, some 1 => do
      let branch ← addState 0 true
      let p ← countHir back sub
      let empty ← addState 0
      connect branch
      connect branch
      connect p.exit
      let _ := greedy
      pure ⟨branch, empty⟩
    | n, none =>
      if n == 0 then
        let consumes : Bool := match sub.minLen with
          | some k => k > 0
          | none => false
        if consumes then do
          let branch ← addState 0 true
          let p ← countHir back sub
          connect branch
          connect p.exit
          pure ⟨branch, branch⟩
        else do
          let p ← countHir back sub
          let plus ← addState 0 true
          connect p.exit
          connect plus
          let question ← addState 0 true
          let empty ← addState 0
          connect question
          connect question
          connect plus
          pure ⟨question, empty⟩
      else if n == 1 then do
        let p ← countHir back sub
        let branch ← addState 0 true
        connect p.exit
        connect branch
        pure ⟨p.entry, branch⟩
      else do
        let front ← (List.range (n - 1)).foldlM (fun (acc : Option Piece) _ => do
          let p ← countHir back sub
          match acc with
          | none => pure (some p)
          | some q => do
            connect q.exit
            pure (some ⟨q.entry, p.exit⟩)) none
        let front ← match front with
          | some q => pure q
          | none => single 0
        let last ← countHir back sub
        let branch ← addState 0 true
        connect front.exit
        connect last.exit
        connect branch
        pure ⟨front.entry, branch⟩
    | n, some m => do
      let front ← (List.range n).foldlM (fun (acc : Option Piece) _ => do
        let p ← countHir back sub
        match acc with
        | none => pure (some p)
        | some q => do
          connect q.exit
          pure (some ⟨q.entry, p.exit⟩)) none
      let front ← match front with
        | some q => pure q
        | none => single 0
      if n == m then return front
      let empty ← addState 0
      let exit ← (List.range (m - n)).foldlM (fun prevExit _ => do
        let branch ← addState 0 true
        let p ← countHir back sub
        connect prevExit
        connect branch
        connect branch
        pure p.exit) front.exit
      connect exit
      pure ⟨front.entry, empty⟩
  | .capture _ sub =>
    if back then countHir back sub
    else do
      let open_ ← addState 0
      let p ← countHir back sub
      let close ← addState 0
      connect open_
      connect p.exit
      pure ⟨open_, close⟩
  | .concat subs =>
    if back then do
      match ← countSeqBack back subs with
      | some p => pure p
      | none => single 0
    else countSeq back subs
  | .alternation subs =>
    match allLiterals subs with
    | some strings =>
      stringsAutomaton (strings.map fun cs =>
        if back then (charBytes cs).reverse else charBytes cs)
    | none => countAlternatives back subs

/-- Counts pieces in sequence. -/
def countSeq (back : Bool) : List Hir → CountM Piece
  | [] => single 0
  | h :: hs => do
    let first ← countHir back h
    countSeqFrom back first hs

/-- Counts pieces in sequence from the last to the first, as the automaton that searches
backwards is built. -/
def countSeqBack (back : Bool) : List Hir → CountM (Option Piece)
  | [] => pure none
  | h :: hs => do
    let rest ← countSeqBack back hs
    let p ← countHir back h
    match rest with
    | none => pure (some p)
    | some r => do
      connect r.exit
      pure (some ⟨r.entry, p.exit⟩)

/-- Counts the rest of a sequence after its first pieces. -/
def countSeqFrom (back : Bool) (acc : Piece) : List Hir → CountM Piece
  | [] => pure acc
  | h :: hs => do
    let p ← countHir back h
    connect acc.exit
    countSeqFrom back ⟨acc.entry, p.exit⟩ hs

/-- Counts the branches of an alternation. -/
def countAlternatives (back : Bool) : List Hir → CountM Piece
  | [] => single 0
  | [h] => countHir back h
  | h1 :: h2 :: rest => do
    let first ← countHir back h1
    let second ← countHir back h2
    let branch ← addState 0 true
    let stop ← addState 0
    connect branch
    connect first.exit
    connect branch
    connect second.exit
    countMoreBranches back branch stop rest

/-- Counts further branches of an alternation. -/
def countMoreBranches (back : Bool) (branch stop : Nat) : List Hir → CountM Piece
  | [] => pure ⟨branch, stop⟩
  | h :: hs => do
    let p ← countHir back h
    connect branch
    connect p.exit
    countMoreBranches back branch stop hs

end

/-- Counts the whole automaton for a pattern's meaning, forwards or backwards: a lead that lets
a match start anywhere (unless every match is anchored), the group around the whole pattern
(forwards), and the accepting state. -/
def countAutomaton (back : Bool) (h : Hir) : CountM Unit := do
  let anchored := if back then h.anchoredEnd else h.anchoredStart
  let lead ← if anchored then single 0 else do
    let branch ← addState 0 true
    let _ ← addState 0
    let _ ← addState 8
    connect branch
    pure ⟨branch, branch⟩
  let p ← countHir back (if back then h else .capture 0 h)
  let accept ← addState 0
  connect p.exit
  let _ := accept
  connect lead.exit

/-- Whether a pattern's meaning compiles to an automaton beyond the limit, forwards or
backwards. -/
def tooBig (h : Hir) : Bool :=
  match (countAutomaton false h).run {} with
  | .error () => true
  | .ok _ =>
    match (countAutomaton true h).run {} with
    | .error () => true
    | .ok _ => false

end PostRules.Regex
