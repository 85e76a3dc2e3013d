/-!
# Shortest decimal digits of a binary64 value

A finite binary64 value stands for the interval of reals that round to it: from halfway to the
value below to halfway to the value above, both ends included exactly when the mantissa is even.
The shortest decimal of a value is a decimal in that interval with the fewest significant
digits; of two such decimals of the same length, the one nearer the value, and of two equally
near, the one the tie rule picks.

The search is the specification turned into a loop: for one digit, then two, up to seventeen,
take the two neighbours of the value on the grid of that many digits and test them. All
arithmetic is exact, over natural numbers.
-/

namespace PostRules.Decimal

/-- A finite non-negative binary64 value, `m * 2^q`. -/
structure Binary where
  m : Nat
  q : Int
  /-- The gap to the value below is half the gap to the value above (a power of two). -/
  narrowBelow : Bool
  deriving Repr, DecidableEq

/-- A decimal `digits * 10^exp`. -/
structure Dec where
  digits : Nat
  exp : Int
  deriving Repr, DecidableEq, Inhabited

/-- How an exact tie between two candidates of equal length is settled. -/
inductive Tie where
  | toEven
  | up
  deriving DecidableEq, Repr

/-- The magnitude of a finite value from its bits; the sign bit is ignored. -/
def Binary.ofBits (b : UInt64) : Binary :=
  let e := ((b >>> 52) &&& 0x7FF).toNat
  let f := (b &&& 0xFFFFFFFFFFFFF).toNat
  if e == 0 then ⟨f, -1074, false⟩ else ⟨Nat.pow 2 52 + f, (e : Int) - 1075, f == 0 && e > 1⟩

/-- Compares `a * 10^i` with `n * 2^j`, exactly. -/
def cmpScaled (a : Nat) (i : Int) (n : Nat) (j : Int) : Ordering :=
  compare (a * Nat.pow 10 i.toNat * Nat.pow 2 (-j).toNat)
    (n * Nat.pow 2 j.toNat * Nat.pow 10 (-i).toNat)

/-- Whether a decimal lies among the reals that round to `x` (to nearest, ties to even). -/
def Binary.readsBack (x : Binary) (d : Dec) : Bool :=
  let lo := if x.narrowBelow then 4 * x.m - 1 else 4 * x.m - 2
  let hi := 4 * x.m + 2
  let incl := x.m % 2 == 0
  let cl := cmpScaled d.digits d.exp lo (x.q - 2)
  let ch := cmpScaled d.digits d.exp hi (x.q - 2)
  (cl == .gt || (incl && cl == .eq)) && (ch == .lt || (incl && ch == .eq))

/-- `⌊x / 10^k⌋` for `x = m * 2^q`. -/
def Binary.floorOnGrid (x : Binary) (k : Int) : Nat :=
  (x.m * Nat.pow 2 x.q.toNat * Nat.pow 10 (-k).toNat) /
    (Nat.pow 2 (-x.q).toNat * Nat.pow 10 k.toNat)

/-- The scale of a positive value: the least `k` with `x < 10^k`. It is estimated from the
binary logarithm and corrected by exact comparisons. -/
def Binary.scale (x : Binary) : Int :=
  let estimate : Int := ((Nat.log2 x.m : Int) + x.q) * 30103 / 100000
  -- `below k` holds when `x < 10^k`
  let below := fun (k : Int) => cmpScaled 1 k x.m x.q == .gt
  let rec up : Nat → Int → Int
    | 0, k => k
    | n + 1, k => if below k then k else up n (k + 1)
  let rec down : Nat → Int → Int
    | 0, k => k
    | n + 1, k => if below (k - 1) then down n (k - 1) else k
  down 4 (up 4 estimate)

/-- Removes trailing zeros of the digits into the exponent. -/
def Dec.strip (d : Dec) : Dec :=
  let rec go : Nat → Dec → Dec
    | 0, d => d
    | n + 1, d => if d.digits != 0 && d.digits % 10 == 0 then go n ⟨d.digits / 10, d.exp + 1⟩ else d
  go 20 d

/-- The shortest decimal of a positive finite value, searched over one to seventeen digits. -/
def Binary.shortest (x : Binary) (tie : Tie) : Dec :=
  let k := x.scale
  let rec search : Nat → Nat → Dec
    | 0, _ => ⟨x.m, x.q⟩
    | fuel + 1, n =>
      let grid : Int := k - n
      let lo := x.floorOnGrid grid
      let hi := lo + 1
      let okLo := lo != 0 && x.readsBack ⟨lo, grid⟩
      let okHi := x.readsBack ⟨hi, grid⟩
      if okLo && okHi then
        -- compare the value with the midpoint of the two candidates
        match cmpScaled (lo + hi) grid (2 * x.m) x.q with
        | .gt => ⟨lo, grid⟩
        | .lt => ⟨hi, grid⟩
        | .eq =>
          match tie with
          | .toEven => if lo % 2 == 0 then ⟨lo, grid⟩ else ⟨hi, grid⟩
          | .up => ⟨hi, grid⟩
      else if okLo then ⟨lo, grid⟩
      else if okHi then ⟨hi, grid⟩
      else search fuel (n + 1)
  (search 17 1).strip

/-- The decimal digits of a natural number, most significant first. -/
def digitsOf (n : Nat) : List Char :=
  (Nat.toDigits 10 n)

end PostRules.Decimal
