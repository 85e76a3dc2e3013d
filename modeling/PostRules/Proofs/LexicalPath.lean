import PostRules.Rule.Resolve
import Mathlib

/-!
# Keys of rule files are lexical resolutions

A rule file names another by a path, read against the directory of the document. The key of the
name, and the path that is read for it, is computed without looking at any disk. The main
statement, `fileSource_key_lexical`, compares it with resolution as a stack of segments: take
the name if it is absolute, else the base joined to it by `/`; split at `/` and drop empty parts
and `.`; fold the segments onto a stack, where `..` removes a name on top, does nothing at the
root of an absolute path and is kept otherwise; write the stack out, with a leading `/` exactly
for an absolute path. The key is that text, normalising is idempotent, two names share a key
exactly when their stacks agree, and `./n` and `d/../n` have the key of `n` for a relative `n`.

The model keeps a normal path as a root flag, a count of leading `..` steps and a list of
names (`NormalPath`); it stands for the stack of `..` steps then names (`toResolution`). One
segment pushed on each side keeps this correspondence (`NormalPath.push_ofSegment`), so a whole
path does (`ofSteps_steps`). Written out and split again, a valid normal path gives back its own
steps (`ofSteps_steps_render`); that is idempotence, and it makes the text determine the path.

Splitting at `/` is `String.splitOn`, whose steps over byte positions are related once to
`List.splitOn` on characters (`splitOn_slash`).
-/

namespace PostRules.Files

/-! ## Splitting at `/` -/

open String in
/-- The splitter at `/` run from a point inside a word: `l` is read, `m` is the part being
collected, `r` is still to come. -/
theorem splitOnAux_slash (l m r : List Char) (acc : List String) :
    splitOnAux (ofList (l ++ m ++ r)) "/" ⟨utf8Len l⟩ ⟨utf8Len l + utf8Len m⟩ 0 acc =
      acc.reverse ++ (List.splitOnPPrepend (· == '/') r m.reverse).map ofList := by
  induction r generalizing l m acc with
  | nil =>
    unfold splitOnAux
    have hm := extract_of_valid l m []
    simp only [List.append_nil] at hm
    simp only [List.append_nil, atEnd_iff, rawEndPos_ofList, utf8Len_append, Pos.Raw.mk_le_mk,
      Nat.le_refl, if_true, List.splitOnPPrepend_nil, List.map_cons, List.map_nil,
      List.reverse_cons, List.reverse_reverse, hm]
  | cons c r ih =>
    unfold splitOnAux
    have hget : Pos.Raw.get (ofList (l ++ m ++ c :: r)) ⟨utf8Len l + utf8Len m⟩ = c := by
      simpa using get_of_valid (l ++ m) (c :: r)
    have hnext : Pos.Raw.next (ofList (l ++ m ++ c :: r)) ⟨utf8Len l + utf8Len m⟩ =
        ⟨utf8Len l + utf8Len m + c.utf8Size⟩ := by
      simpa using next_of_valid (l ++ m) c r
    have hsize := c.utf8Size_pos
    have hslash : Pos.Raw.get "/" 0 = '/' := by decide
    have hone : Pos.Raw.next "/" 0 = ⟨1⟩ := by decide
    have hend : "/".rawEndPos ≤ ⟨1⟩ := by decide
    simp only [atEnd_iff, rawEndPos_ofList, utf8Len_append, utf8Len_cons, Pos.Raw.mk_le_mk]
    rw [if_neg (by omega), hget, hslash, hone, if_pos hend, hnext]
    by_cases hc : c = '/'
    · -- a separator closes the part collected so far
      subst hc
      have hsl : '/'.utf8Size = 1 := by decide
      have hm : Pos.Raw.extract (ofList (l ++ m ++ '/' :: r)) ⟨utf8Len l⟩
          (Pos.Raw.unoffsetBy ⟨utf8Len l + utf8Len m + '/'.utf8Size⟩ ⟨1⟩) = ofList m := by
        rw [hsl]
        exact extract_of_valid l m ('/' :: r)
      have ih' : splitOnAux (ofList (l ++ m ++ '/' :: r)) "/" ⟨utf8Len l + utf8Len m + '/'.utf8Size⟩
          ⟨utf8Len l + utf8Len m + '/'.utf8Size⟩ 0 (ofList m :: acc) =
          acc.reverse ++ ofList m :: (List.splitOnPPrepend (· == '/') r []).map ofList := by
        simpa [Nat.add_assoc] using ih (l ++ m ++ ['/']) [] (ofList m :: acc)
      rw [if_pos (by simp), hm, ih', List.splitOnPPrepend_cons_pos (by simp)]
      simp
    · -- any other character joins the part
      have ih' : splitOnAux (ofList (l ++ m ++ c :: r)) "/" ⟨utf8Len l⟩
          ⟨utf8Len l + utf8Len m + c.utf8Size⟩ 0 acc =
          acc.reverse ++ (List.splitOnPPrepend (· == '/') r (c :: m.reverse)).map ofList := by
        simpa [Nat.add_assoc] using ih l (m ++ [c]) acc
      have hunoff : Pos.Raw.unoffsetBy ⟨utf8Len l + utf8Len m⟩ 0 = ⟨utf8Len l + utf8Len m⟩ := rfl
      rw [if_neg (by simpa using hc), hunoff, hnext, ih',
        List.splitOnPPrepend_cons_neg (by simpa using hc)]

/-- Splitting a text at `/` splits its characters at `/`. -/
theorem splitOn_slash (s : String) :
    s.splitOn "/" = (s.toList.splitOn '/').map String.ofList := by
  obtain ⟨l, rfl⟩ := s.exists_eq_ofList
  simpa [String.splitOn, List.splitOn_eq_splitOnP] using splitOnAux_slash [] [] l []

/-- The parts of a list split at `a` do not hold `a`. -/
theorem not_mem_of_mem_splitOn {a : Char} :
    ∀ {l t : List Char}, t ∈ l.splitOn a → a ∉ t := by
  intro l
  induction l with
  | nil => simp [List.splitOn_nil]
  | cons c l ih =>
    intro t ht
    rw [List.splitOn_cons_eq_if_modifyHead] at ht
    split at ht
    · simp only [List.mem_cons] at ht
      rcases ht with rfl | ht
      · simp
      · exact ih ht
    · next hc =>
      obtain ⟨t0, ts, hts⟩ := List.exists_cons_of_ne_nil (List.splitOn_ne_nil a l)
      rw [hts, List.modifyHead_cons, List.mem_cons] at ht
      rcases ht with rfl | ht
      · simp only [List.mem_cons, not_or]
        exact ⟨fun h => hc (by simp [h]), ih (hts ▸ List.mem_cons_self)⟩
      · exact ih (hts ▸ List.mem_cons_of_mem _ ht)

/-- The parts of a text split at `/` hold no `/`. -/
theorem slash_not_mem_of_mem_splitOn {s t : String} (h : t ∈ s.splitOn "/") : '/' ∉ t.toList := by
  rw [splitOn_slash, List.mem_map] at h
  obtain ⟨t', ht', rfl⟩ := h
  rw [String.toList_ofList]
  exact not_mem_of_mem_splitOn ht'

/-- Splitting two texts joined by `/` splits each. -/
theorem splitOn_append_slash (a b : String) :
    (a ++ "/" ++ b).splitOn "/" = a.splitOn "/" ++ b.splitOn "/" := by
  rw [splitOn_slash, splitOn_slash a, splitOn_slash b, String.toList_append, String.toList_append,
    show "/".toList = ['/'] from rfl, List.append_assoc, List.singleton_append,
    List.splitOn_append_cons_self, List.map_append]

/-- Splitting a text joined by `/` from parts without `/` gives the parts back. -/
theorem splitOn_intercalate_slash {l : List String} (hl : l ≠ []) (h : ∀ s ∈ l, '/' ∉ s.toList) :
    ("/".intercalate l).splitOn "/" = l := by
  rw [splitOn_slash, String.toList_intercalate, show "/".toList = ['/'] from rfl,
    List.splitOn_intercalate '/' (by simpa using h) (by simpa using hl), List.map_map]
  simp [Function.comp_def]

/-- A text starts with `/` exactly when its first character is `/`. -/
theorem startsWith_slash_iff (s : String) : s.startsWith "/" = true ↔ s.toList.head? = some '/' := by
  rw [String.startsWith_string_iff, show "/".toList = ['/'] from rfl]
  cases s.toList with
  | nil => simp
  | cons c l =>
    simp only [List.prefix_cons_iff, List.cons.injEq, List.head?_cons, Option.some.injEq,
      reduceCtorEq, false_or]
    exact ⟨fun ⟨_, ⟨h, _⟩, _⟩ => h.symm, fun h => ⟨[], ⟨h.symm, rfl⟩, List.nil_prefix⟩⟩

/-! ## Lexical resolution as a stack of segments -/

/-- The segments of a path: its parts between `/`, leaving out empty parts and `.`. -/
def segments (path : String) : List String :=
  (path.splitOn "/").filter fun s => s != "" && s != "."

/-- What resolving a path gives: whether it is absolute, and the stack its segments leave. -/
structure Resolution where
  absolute : Bool
  stack : List String
  deriving DecidableEq, Repr

/-- One segment onto the stack: `..` removes a normal segment on top, does nothing at the root of
an absolute path, and is pushed otherwise; any other segment is pushed. -/
def pushSegment (absolute : Bool) (stack : List String) (seg : String) : List String :=
  if seg = ".." then
    match stack.getLast? with
    | some top => if top = ".." then stack ++ [seg] else stack.dropLast
    | none => if absolute then [] else [seg]
  else stack ++ [seg]

/-- The lexical resolution of a path: its segments folded onto an empty stack. -/
def Resolution.of (path : String) : Resolution :=
  let absolute := path.startsWith "/"
  ⟨absolute, (segments path).foldl (pushSegment absolute) []⟩

/-- The text of a resolution: a leading `/` exactly when it is absolute, then the stack joined by
`/`. -/
def Resolution.text (r : Resolution) : String :=
  (if r.absolute then "/" else "") ++ "/".intercalate r.stack

/-- The text of the path that `name` denotes from the directory `base`: an absolute name stands
alone, a relative one follows the base after a `/` (an empty base adds nothing). -/
def joinPath (base name : String) : String :=
  if name.startsWith "/" || base.isEmpty then name else base ++ "/" ++ name

/-! ## Normal paths track the stack -/

/-- A segment: a part of a path between `/` that is neither empty nor `.`. -/
def IsSegment (s : String) : Prop := s ≠ "" ∧ s ≠ "." ∧ '/' ∉ s.toList

/-- Every segment of a path is a segment: not empty, not `.`, without `/`. -/
theorem isSegment_of_mem_segments {path s : String} (h : s ∈ segments path) : IsSegment s := by
  rw [segments, List.mem_filter] at h
  obtain ⟨hs, hkeep⟩ := h
  simp only [Bool.and_eq_true, bne_iff_ne, ne_eq] at hkeep
  exact ⟨hkeep.1, hkeep.2, slash_not_mem_of_mem_splitOn hs⟩

/-- `..` is a segment. -/
theorem isSegment_parent : IsSegment ".." := by
  refine ⟨by decide, by decide, by decide⟩

/-- The step a segment stands for. -/
def Step.ofSegment (seg : String) : Step :=
  if seg == ".." then .parent else .name seg

/-- The steps of a path are the root when it starts with `/`, then one step for each of its
segments. -/
theorem steps_eq (s : String) :
    steps s = (if s.startsWith "/" then [Step.root] else []) ++ (segments s).map Step.ofSegment := by
  unfold steps segments Step.ofSegment
  split <;> rfl

namespace NormalPath

/-- The resolution a normal path stands for: its `..` steps, then its names, on the stack. -/
def toResolution (p : NormalPath) : Resolution :=
  ⟨p.rooted, List.replicate p.ups ".." ++ p.names⟩

/-- A normal path that resolution can reach: a rooted one has no `..` steps, and its names are
segments other than `..`. -/
structure Valid (p : NormalPath) : Prop where
  ups_of_rooted : p.rooted = true → p.ups = 0
  names : ∀ n ∈ p.names, IsSegment n ∧ n ≠ ".."

/-- `..` pushed onto a valid normal path is pushed onto its stack: it removes a name on top, stays
at the root, or is one more step up. -/
theorem push_parent {p : NormalPath} (hp : p.Valid) :
    (p.push .parent).toResolution = ⟨p.rooted, pushSegment p.rooted p.toResolution.stack ".."⟩ ∧
      (p.push .parent).Valid := by
  obtain ⟨rooted, ups, names⟩ := p
  rcases List.eq_nil_or_concat names with rfl | ⟨names, n, rfl⟩
  · -- no names: `..` stays at the root, or is one more step up
    cases ups with
    | zero =>
      cases rooted with
      | true => exact ⟨by simp [push, toResolution, pushSegment], by simpa [push] using hp⟩
      | false =>
        exact ⟨by simp [push, toResolution, pushSegment],
          ⟨fun h => by simp [push] at h, by simp [push]⟩⟩
    | succ k =>
      have hrel : rooted = false := by
        cases rooted
        · rfl
        · exact absurd (hp.ups_of_rooted rfl) (Nat.succ_ne_zero k)
      subst hrel
      refine ⟨?_, ⟨fun h => by simp [push] at h, by simp [push]⟩⟩
      simp [push, toResolution, pushSegment, List.replicate_succ', List.getLast?_append]
  · -- a name on top is removed
    have hn := hp.names n (by simp)
    refine ⟨?_, ⟨fun h => by simpa [push] using hp.ups_of_rooted (by simpa [push] using h),
      fun m hm => hp.names m (by simp [push] at hm; simp [hm])⟩⟩
    simp [push, toResolution, pushSegment, List.getLast?_append, hn.2]

/-- A segment other than `..` pushed onto a valid normal path is one more name on its stack. -/
theorem push_name {p : NormalPath} (hp : p.Valid) {seg : String} (hseg : IsSegment seg)
    (hpar : seg ≠ "..") :
    (p.push (.name seg)).toResolution = ⟨p.rooted, pushSegment p.rooted p.toResolution.stack seg⟩ ∧
      (p.push (.name seg)).Valid := by
  refine ⟨?_, ⟨hp.ups_of_rooted, ?_⟩⟩
  · simp [push, toResolution, pushSegment, hpar]
  · intro n hn
    rcases List.mem_append.1 hn with hn | hn
    · exact hp.names n hn
    · rw [List.mem_singleton.1 hn]; exact ⟨hseg, hpar⟩

/-- One segment pushed onto a valid normal path is pushed onto its stack. -/
theorem push_ofSegment {p : NormalPath} (hp : p.Valid) {seg : String} (hseg : IsSegment seg) :
    (p.push (Step.ofSegment seg)).toResolution =
        ⟨p.rooted, pushSegment p.rooted p.toResolution.stack seg⟩ ∧
      (p.push (Step.ofSegment seg)).Valid := by
  by_cases hpar : seg = ".."
  · subst hpar
    exact push_parent hp
  · have hstep : Step.ofSegment seg = .name seg := by simp [Step.ofSegment, hpar]
    rw [hstep]
    exact push_name hp hseg hpar

/-- Folding segments onto a valid normal path folds them onto its stack. -/
theorem foldl_push_ofSegment : ∀ (segs : List String) {p : NormalPath}, p.Valid →
    (∀ s ∈ segs, IsSegment s) →
    ((segs.map Step.ofSegment).foldl push p).toResolution =
        ⟨p.rooted, segs.foldl (pushSegment p.rooted) p.toResolution.stack⟩ ∧
      ((segs.map Step.ofSegment).foldl push p).Valid
  | [], p, hp, _ => ⟨rfl, hp⟩
  | seg :: segs, p, hp, hsegs => by
    obtain ⟨hstep, hvalid⟩ := push_ofSegment hp (hsegs seg (by simp))
    have hroot : (p.push (Step.ofSegment seg)).rooted = p.rooted :=
      congrArg Resolution.absolute hstep
    have hstack : (p.push (Step.ofSegment seg)).toResolution.stack =
        pushSegment p.rooted p.toResolution.stack seg := congrArg Resolution.stack hstep
    obtain ⟨ih, hvalid'⟩ := foldl_push_ofSegment segs hvalid (fun s hs => hsegs s (by simp [hs]))
    refine ⟨?_, hvalid'⟩
    rw [List.map_cons, List.foldl_cons, ih, hroot, hstack, List.foldl_cons]

/-- Parents pushed onto a relative path with no names are steps up. -/
theorem foldl_push_parents (k u : Nat) :
    (List.replicate k Step.parent).foldl push ⟨false, u, []⟩ = ⟨false, u + k, []⟩ := by
  induction k generalizing u with
  | zero => rfl
  | succ k ih =>
    rw [List.replicate_succ, List.foldl_cons]
    simpa [push, Nat.add_assoc, Nat.add_comm 1 k] using ih (u + 1)

/-- Names pushed onto a path are appended to its names. -/
theorem foldl_push_names (ns : List String) (p : NormalPath) :
    (ns.map Step.name).foldl push p = { p with names := p.names ++ ns } := by
  induction ns generalizing p with
  | nil => simp
  | cons n ns ih => simp [push, ih]

/-- A name pushed and then taken back by `..` leaves the path as it was. -/
theorem push_name_parent (p : NormalPath) (d : String) :
    (p.push (.name d)).push .parent = p := by
  simp [push]

/-- Rendering a valid path is writing out its resolution. -/
theorem render_eq_text {p : NormalPath} (hp : p.Valid) : p.render = p.toResolution.text := by
  cases hr : p.rooted
  · simp [render, Resolution.text, toResolution, hr]
  · simp [render, Resolution.text, toResolution, hr, hp.ups_of_rooted hr]

end NormalPath

/-- The empty path has no steps. -/
theorem steps_empty : steps "" = [] := by
  cbv

/-- The normal form of a path stands for its lexical resolution, and is valid. -/
theorem ofSteps_steps (s : String) :
    (NormalPath.ofSteps (steps s)).toResolution = Resolution.of s ∧
      (NormalPath.ofSteps (steps s)).Valid := by
  have hsegs : ∀ t ∈ segments s, IsSegment t := fun t ht => isSegment_of_mem_segments ht
  rw [steps_eq, NormalPath.ofSteps, List.foldl_append]
  cases habs : s.startsWith "/" with
  | true =>
    -- an absolute path starts from the root
    have hroot : ([Step.root] : List Step).foldl NormalPath.push NormalPath.empty =
        ⟨true, 0, []⟩ := rfl
    obtain ⟨hres, hvalid⟩ := NormalPath.foldl_push_ofSegment (segments s)
      (show NormalPath.Valid ⟨true, 0, []⟩ from ⟨fun _ => rfl, by simp⟩) hsegs
    simp only [if_true, hroot]
    exact ⟨by simpa [Resolution.of, habs, NormalPath.toResolution] using hres, hvalid⟩
  | false =>
    obtain ⟨hres, hvalid⟩ := NormalPath.foldl_push_ofSegment (segments s)
      (show NormalPath.empty.Valid from
        ⟨fun h => by simp [NormalPath.empty] at h, by simp [NormalPath.empty]⟩) hsegs
    exact ⟨by simpa [Resolution.of, habs, NormalPath.toResolution, NormalPath.empty] using hres,
      by simpa using hvalid⟩


/-! ## The key of a name -/

/-- Whether a text starts with `/` is decided by its first part, when that part is not empty. -/
theorem startsWith_slash_append {a : String} (ha : a ≠ "") (b : String) :
    (a ++ b).startsWith "/" = a.startsWith "/" := by
  obtain ⟨c, l, hcl⟩ := List.exists_cons_of_ne_nil (mt String.toList_eq_nil_iff.1 ha)
  rw [Bool.eq_iff_iff, startsWith_slash_iff, startsWith_slash_iff, String.toList_append, hcl]
  rfl

/-- A segment never starts with `/`. -/
theorem startsWith_slash_of_isSegment {s : String} (h : IsSegment s) : s.startsWith "/" = false := by
  obtain ⟨c, l, hcl⟩ := List.exists_cons_of_ne_nil (mt String.toList_eq_nil_iff.1 h.1)
  have hc : c ≠ '/' := fun hc => h.2.2 (by simp [hcl, hc])
  rw [Bool.eq_false_iff, ne_eq, startsWith_slash_iff, hcl]
  simpa using hc

/-- The segments of two paths joined by `/` are those of the first, then those of the second. -/
theorem segments_append_slash (a b : String) :
    segments (a ++ "/" ++ b) = segments a ++ segments b := by
  rw [segments, splitOn_append_slash, List.filter_append]
  rfl

/-- The steps of a name read from a base are the steps of the text they join to. -/
theorem joinSteps_eq_steps (base name : String) : joinSteps base name = steps (joinPath base name) := by
  unfold joinSteps joinPath
  cases hn : name.startsWith "/" with
  | true => simp
  | false =>
    by_cases hb : base = ""
    · subst hb
      simp [steps_empty]
    · have hbe : base.isEmpty = false := by
        rw [Bool.eq_false_iff, ne_eq, String.isEmpty_iff]
        exact hb
      simp only [hbe, Bool.or_false, Bool.false_eq_true, if_false]
      rw [steps_eq (base ++ "/" ++ name), steps_eq base, steps_eq name, hn, String.append_assoc,
        startsWith_slash_append hb, ← String.append_assoc, segments_append_slash, List.map_append]
      simp

/-- The path `fileSource` reads for a name, which is also its key, is the text of the lexical
resolution of the name joined to the base. -/
theorem resolve_render (base name : String) :
    (resolve base name).render = (Resolution.of (joinPath base name)).text := by
  obtain ⟨hres, hvalid⟩ := ofSteps_steps (joinPath base name)
  rw [resolve, joinSteps_eq_steps, NormalPath.render_eq_text hvalid, hres]

/-- The path a name resolves to is a normal path resolution can reach. -/
theorem resolve_valid (base name : String) : (resolve base name).Valid := by
  rw [resolve, joinSteps_eq_steps]
  exact (ofSteps_steps _).2

/-- The path a name resolves to stands for the lexical resolution of the joined path. -/
theorem resolve_toResolution (base name : String) :
    (resolve base name).toResolution = Resolution.of (joinPath base name) := by
  rw [resolve, joinSteps_eq_steps]
  exact (ofSteps_steps _).1

/-! ## Normal forms are read back -/

/-- The empty path has no segments. -/
theorem segments_empty : segments "" = [] := by
  cbv

/-- The segments of a resolution's text are its stack, when the stack holds segments only. -/
theorem segments_text {r : Resolution} (h : ∀ s ∈ r.stack, IsSegment s) :
    segments r.text = r.stack := by
  rcases r with ⟨absolute, stack⟩
  have hkeep : stack.filter (fun s => s != "" && s != ".") = stack :=
    List.filter_eq_self.2 fun s hs => by simp [(h s hs).1, (h s hs).2.1]
  cases stack with
  | nil => cases absolute <;> cbv
  | cons s rest =>
    have hsplit := splitOn_intercalate_slash (List.cons_ne_nil s rest) fun t ht => (h t ht).2.2
    have hjoined : segments ("/".intercalate (s :: rest)) = s :: rest := by
      rw [segments, hsplit, hkeep]
    cases absolute
    · rw [Resolution.text, if_neg Bool.false_ne_true, String.empty_append, hjoined]
    · -- the leading `/` splits off an empty part
      have hlead : "/" ++ "/".intercalate (s :: rest) = "" ++ "/" ++ "/".intercalate (s :: rest) := by
        rw [String.empty_append]
      rw [Resolution.text, if_pos rfl, hlead, segments_append_slash, segments_empty,
        List.nil_append, hjoined]

/-- The text of a resolution starts with `/` exactly when it is absolute, when its stack holds
segments only. -/
theorem startsWith_text {r : Resolution} (h : ∀ s ∈ r.stack, IsSegment s) :
    r.text.startsWith "/" = r.absolute := by
  rcases r with ⟨absolute, stack⟩
  cases absolute
  · -- a relative text starts with its first segment
    simp only [Resolution.text, Bool.false_eq_true, if_false, String.empty_append]
    match stack, h with
    | [], _ => cbv
    | [s], h => simpa using startsWith_slash_of_isSegment (h s (by simp))
    | s :: t :: rest, h =>
      rw [String.intercalate_cons_cons, String.append_assoc, startsWith_slash_append (h s (by simp)).1]
      exact startsWith_slash_of_isSegment (h s (by simp))
  · simp only [Resolution.text, if_true]
    rw [startsWith_slash_append (by decide)]
    cbv

/-- A normal path that resolution can reach stands for a stack of segments. -/
theorem NormalPath.toResolution_isSegment {p : NormalPath} (hp : p.Valid) :
    ∀ s ∈ p.toResolution.stack, IsSegment s := by
  intro s hs
  rcases List.mem_append.1 hs with hs | hs
  · rw [List.eq_of_mem_replicate hs]; exact isSegment_parent
  · exact (hp.names s hs).1

/-- A valid normal path is the normal form of its own text. -/
theorem ofSteps_steps_render {p : NormalPath} (hp : p.Valid) : NormalPath.ofSteps (steps p.render) = p := by
  have hstack := NormalPath.toResolution_isSegment hp
  have hsegs : segments p.render = List.replicate p.ups ".." ++ p.names := by
    rw [NormalPath.render_eq_text hp, segments_text hstack]; rfl
  have hroot : p.render.startsWith "/" = p.rooted := by
    rw [NormalPath.render_eq_text hp, startsWith_text hstack]; rfl
  have hnames : p.names.map Step.ofSegment = p.names.map Step.name :=
    List.map_congr_left fun n hn => by simp [Step.ofSegment, (hp.names n hn).2]
  have hups : (List.replicate p.ups "..").map Step.ofSegment = List.replicate p.ups Step.parent := by
    simp [Step.ofSegment]
  rcases p with ⟨rooted, ups, names⟩
  rw [steps_eq, hsegs, hroot, List.map_append, hups, hnames, NormalPath.ofSteps]
  cases rooted
  · -- a relative path climbs its `..` steps, then descends its names
    simp only [Bool.false_eq_true, if_false, List.nil_append, List.foldl_append]
    rw [show NormalPath.empty = ⟨false, 0, []⟩ from rfl, NormalPath.foldl_push_parents,
      NormalPath.foldl_push_names]
    simp
  · have hzero : ups = 0 := hp.ups_of_rooted rfl
    subst hzero
    simp only [if_true, List.replicate_zero, List.nil_append, List.foldl_append]
    rw [show ([Step.root] : List Step).foldl NormalPath.push NormalPath.empty = ⟨true, 0, []⟩ from rfl,
      NormalPath.foldl_push_names]
    simp

/-- Writing out normal paths loses nothing. -/
theorem render_injective {p q : NormalPath} (hp : p.Valid) (hq : q.Valid)
    (h : p.render = q.render) : p = q := by
  rw [← ofSteps_steps_render hp, ← ofSteps_steps_render hq, h]

/-- Lexical normalisation of a path on its own. -/
def normalize (path : String) : String := (NormalPath.ofSteps (steps path)).render

/-- Normalising twice is normalising once. -/
theorem normalize_normalize (path : String) : normalize (normalize path) = normalize path := by
  unfold normalize
  rw [ofSteps_steps_render (ofSteps_steps path).2]

/-- Two names have one key exactly when their lexical resolutions agree. -/
theorem fileSource_key_eq_iff (tree : FileTree) (base n₁ n₂ : String) :
    (fileSource tree base).key n₁ = (fileSource tree base).key n₂ ↔
      Resolution.of (joinPath base n₁) = Resolution.of (joinPath base n₂) := by
  show (resolve base n₁).render = (resolve base n₂).render ↔ _
  constructor
  · intro h
    rw [← resolve_toResolution, ← resolve_toResolution,
      render_injective (resolve_valid base n₁) (resolve_valid base n₂) h]
  · intro h
    rw [resolve_render, resolve_render, h]

/-! ## Spellings of one name -/

/-- A name: a segment other than `..`. -/
def IsName (s : String) : Prop := IsSegment s ∧ s ≠ ".."

/-- A relative name is resolved by the steps of the base followed by its own. -/
theorem joinSteps_of_relative (base : String) {name : String} (hn : name.startsWith "/" = false) :
    joinSteps base name = steps base ++ steps name := by
  simp [joinSteps, hn]

/-- A leading `./` adds no step to a relative name. -/
theorem steps_dot_slash {n : String} (hn : n.startsWith "/" = false) : steps ("./" ++ n) = steps n := by
  have hsplit : "./" ++ n = "." ++ "/" ++ n := by rw [String.append_assoc]; rfl
  have hdot : segments "." = [] := by cbv
  have hdot' : ".".startsWith "/" = false := by cbv
  rw [steps_eq, steps_eq, hsplit, segments_append_slash, hdot, List.nil_append,
    String.append_assoc, startsWith_slash_append (by decide), hdot', hn]

/-- A name and `..` in front of a relative name add the step into the name and the step back out. -/
theorem steps_name_parent {d n : String} (hd : IsName d) (hn : n.startsWith "/" = false) :
    steps (d ++ "/../" ++ n) = [Step.name d, Step.parent] ++ steps n := by
  have hsplit : d ++ "/../" ++ n = d ++ "/" ++ (".." ++ "/" ++ n) := by
    simp only [String.append_assoc]; rfl
  have hd' : segments d = [d] := by
    rw [segments, splitOn_slash, List.splitOn_eq_singleton hd.1.2.2]
    simp [hd.1.1, hd.1.2.1]
  have hparent : segments ".." = [".."] := by cbv
  rw [steps_eq, steps_eq n, hsplit, segments_append_slash, segments_append_slash, hd', hparent,
    String.append_assoc, startsWith_slash_append hd.1.1, startsWith_slash_of_isSegment hd.1, hn]
  simp [Step.ofSegment, hd.2]

/-- Putting `./` before a relative name does not change its key. -/
theorem fileSource_key_dot_slash (tree : FileTree) (base : String) {n : String}
    (hn : n.startsWith "/" = false) :
    (fileSource tree base).key ("./" ++ n) = (fileSource tree base).key n := by
  have hrel : ("./" ++ n).startsWith "/" = false := by
    rw [startsWith_slash_append (by decide)]; cbv
  show (resolve base ("./" ++ n)).render = (resolve base n).render
  rw [resolve, resolve, joinSteps_of_relative base hrel, joinSteps_of_relative base hn,
    steps_dot_slash hn]

/-- Putting a name and `..` before a relative name does not change its key. -/
theorem fileSource_key_name_parent (tree : FileTree) (base : String) {d n : String} (hd : IsName d)
    (hn : n.startsWith "/" = false) :
    (fileSource tree base).key (d ++ "/../" ++ n) = (fileSource tree base).key n := by
  have hrel : (d ++ "/../" ++ n).startsWith "/" = false := by
    rw [String.append_assoc, startsWith_slash_append hd.1.1, startsWith_slash_of_isSegment hd.1]
  show (resolve base (d ++ "/../" ++ n)).render = (resolve base n).render
  rw [resolve, resolve, joinSteps_of_relative base hrel, joinSteps_of_relative base hn,
    steps_name_parent hd hn, NormalPath.ofSteps, NormalPath.ofSteps, List.foldl_append,
    List.foldl_append, List.foldl_append, List.foldl_cons, List.foldl_cons, List.foldl_nil,
    NormalPath.push_name_parent]

/-- The path read for a name, which is also its key, is the text of its lexical resolution
against the base; normalising is idempotent; two names share a key exactly when their
resolutions agree; and a relative name keeps its key under `./` and under any name followed by
`..`. -/
theorem fileSource_key_lexical :
    (∀ base name, (resolve base name).render = (Resolution.of (joinPath base name)).text) ∧
    (∀ path, normalize (normalize path) = normalize path) ∧
    (∀ tree base n₁ n₂, (fileSource tree base).key n₁ = (fileSource tree base).key n₂ ↔
      Resolution.of (joinPath base n₁) = Resolution.of (joinPath base n₂)) ∧
    (∀ tree base n, n.startsWith "/" = false →
      (fileSource tree base).key ("./" ++ n) = (fileSource tree base).key n ∧
      ∀ d, IsName d → (fileSource tree base).key (d ++ "/../" ++ n) = (fileSource tree base).key n) :=
  ⟨resolve_render, normalize_normalize, fileSource_key_eq_iff,
    fun tree base _ hn => ⟨fileSource_key_dot_slash tree base hn,
      fun _ hd => fileSource_key_name_parent tree base hd hn⟩⟩

/-- Under the base `/etc/sesetweet`, `./rules/a.yml` and `rules/../rules/a.yml` are keyed as
`rules/a.yml`. -/
theorem fileSource_key_lexical_rules : ("rules/a.yml".startsWith "/" = false) ∧
    (fileSource {} "/etc/sesetweet").key ("./" ++ "rules/a.yml") =
      (fileSource {} "/etc/sesetweet").key "rules/a.yml" ∧
    (fileSource {} "/etc/sesetweet").key ("rules" ++ "/../" ++ "rules/a.yml") =
      (fileSource {} "/etc/sesetweet").key "rules/a.yml" := by
  have hrel : "rules/a.yml".startsWith "/" = false := by cbv
  obtain ⟨hdot, hpar⟩ := fileSource_key_lexical.2.2.2 {} "/etc/sesetweet" "rules/a.yml" hrel
  exact ⟨hrel, hdot, hpar "rules" ⟨⟨by decide, by decide, by decide⟩, by decide⟩⟩

/-- An absolute name after `./` is read from the base: `.//x` is not `/x`. -/
theorem fileSource_key_dot_slash_absolute :
    (fileSource {} "/etc").key ("./" ++ "/x") ≠ (fileSource {} "/etc").key "/x" := by
  cbv

end PostRules.Files
