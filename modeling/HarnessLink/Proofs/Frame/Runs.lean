import HarnessLink.Proofs.Frame.Chunking

/-!
# Reassembly where indices count

The frames that come out are the runs that went in: the stretches of the received
fragments that count 0, 1, 2, and so on up to the only fragment without a follower, and
fit the frame size. A fragment in progress adds nothing to what the fragments behind it
give without it, since those that continue it cannot start a frame. So the frames are
read off the sequence one position at a time.
-/
namespace HarnessLink

/-! ## Stretches of a sequence -/

/-- A stretch of a sequence: where it starts and how many items it has. -/
structure Stretch where
  start : Nat
  length : Nat
  deriving DecidableEq

namespace Stretch

/-- The position behind the last item. -/
def stop (s : Stretch) : Nat := s.start + s.length

/-- The items that a stretch of a sequence covers. -/
def of {α : Type} (s : Stretch) (items : List α) : List α := (items.drop s.start).take s.length

/-- The same stretch once an item was put in front of the sequence. -/
def behind (s : Stretch) : Stretch := ⟨s.start + 1, s.length⟩

/-- Every stretch of at least one item of a sequence of `n`, by start and then by length. -/
def all (n : Nat) : List Stretch :=
  (List.range n).flatMap fun start => (List.range (n - start)).map fun k => ⟨start, k + 1⟩

@[simp] theorem of_behind {α : Type} (s : Stretch) (item : α) (items : List α) :
    s.behind.of (item :: items) = s.of items := by
  simp [of, behind]

theorem mem_all {n : Nat} {s : Stretch} : s ∈ all n ↔ 0 < s.length ∧ s.stop ≤ n := by
  simp only [all, List.mem_flatMap, List.mem_range, List.mem_map, stop]
  constructor
  · rintro ⟨start, hstart, k, hk, rfl⟩
    simp only
    omega
  · intro h
    refine ⟨s.start, by omega, s.length - 1, by omega, ?_⟩
    have hlength : s.length - 1 + 1 = s.length := by omega
    rw [hlength]

/-- Stretches that start at the first item come before the others. -/
theorem all_succ (n : Nat) :
    all (n + 1) = (List.range (n + 1)).map (fun k => ⟨0, k + 1⟩) ++ (all n).map behind := by
  rw [all, List.range_succ_eq_map, List.flatMap_cons, List.flatMap_map, all, List.map_flatMap]
  simp [List.range_succ_eq_map, behind, Function.comp_def]

/-- The order in which stretches are listed. -/
theorem all_pairwise (n : Nat) :
    (all n).Pairwise fun s s' => s.start < s'.start ∨ s.start = s'.start ∧ s.length < s'.length := by
  have hlt (m : Nat) : (List.range m).Pairwise (· < ·) := List.pairwise_lt_range
  rw [all, List.pairwise_flatMap]
  constructor
  · intro start _
    rw [List.pairwise_map]
    apply (hlt _).imp
    intro k k' hk
    simpa using hk
  · apply (hlt n).imp
    intro start start' hstart s hs s' hs'
    obtain ⟨k, -, rfl⟩ := List.mem_map.mp hs
    obtain ⟨k', -, rfl⟩ := List.mem_map.mp hs'
    exact Or.inl hstart

theorem getElem?_of {α : Type} {s : Stretch} {items : List α} {i : Nat} (h : i < s.length) :
    (s.of items)[i]? = items[s.start + i]? := by
  rw [of, List.getElem?_take_of_lt h, List.getElem?_drop]

end Stretch

/-! ## Runs of fragments -/

namespace Fragment

/-- These fragments, received one behind the other, are a whole frame: they count from
zero, each but the last has a follower, and their payloads together fit `limit`. -/
structure Run (limit : Nat) (run : List Fragment) : Prop where
  nonempty : run ≠ []
  indices : run.map (fun f => f.index.toNat) = List.range run.length
  followers : run.map Fragment.more = (List.range run.length).map fun i => decide (i + 1 < run.length)
  size : (run.flatMap Fragment.payload).length ≤ limit

instance (limit : Nat) (run : List Fragment) : Decidable (Run limit run) :=
  decidable_of_iff
    (run ≠ [] ∧ run.map (fun f => f.index.toNat) = List.range run.length ∧
      run.map Fragment.more = (List.range run.length).map (fun i => decide (i + 1 < run.length)) ∧
      (run.flatMap Fragment.payload).length ≤ limit)
    ⟨fun ⟨h₁, h₂, h₃, h₄⟩ => ⟨h₁, h₂, h₃, h₄⟩, fun h => ⟨h.nonempty, h.indices, h.followers, h.size⟩⟩

def isRun (limit : Nat) (run : List Fragment) : Bool := Run limit run

theorem isRun_iff {limit : Nat} {run : List Fragment} : isRun limit run = true ↔ Run limit run :=
  decide_eq_true_iff

theorem isRun_eq_false_iff {limit : Nat} {run : List Fragment} :
    isRun limit run = false ↔ ¬ Run limit run :=
  decide_eq_false_iff_not

theorem Run.index_eq {limit : Nat} {run : List Fragment} (h : Run limit run) {i : Nat} {f : Fragment}
    (hf : run[i]? = some f) : f.index.toNat = i := by
  obtain ⟨hi, -⟩ := List.getElem?_eq_some_iff.mp hf
  have hget := congrArg (fun l => l[i]?) h.indices
  simpa only [List.getElem?_map, hf, Option.map_some, List.getElem?_range hi, Option.some.injEq]
    using hget

theorem Run.more_eq {limit : Nat} {run : List Fragment} (h : Run limit run) {i : Nat} {f : Fragment}
    (hf : run[i]? = some f) : f.more = decide (i + 1 < run.length) := by
  obtain ⟨hi, -⟩ := List.getElem?_eq_some_iff.mp hf
  have hget := congrArg (fun l => l[i]?) h.followers
  simpa only [List.getElem?_map, hf, Option.map_some, List.getElem?_range hi, Option.some.injEq]
    using hget

/-- The frame that a run is: slot and kind of its first fragment, and all its bytes. -/
def joined : List Fragment → Frame
  | [] => ⟨0, 0, []⟩
  | f :: rest => ⟨f.slot, f.kind, (f :: rest).flatMap Fragment.payload⟩

/-- The runs among received fragments, wherever they are. -/
def runs (limit : Nat) (fragments : List Fragment) : List Stretch :=
  (Stretch.all fragments.length).filter fun s => isRun limit (s.of fragments)

theorem mem_runs {limit : Nat} {fragments : List Fragment} {s : Stretch} :
    s ∈ runs limit fragments ↔ s.stop ≤ fragments.length ∧ Run limit (s.of fragments) := by
  simp only [runs, List.mem_filter, Stretch.mem_all, isRun_iff]
  constructor
  · rintro ⟨⟨-, hstop⟩, hrun⟩
    exact ⟨hstop, hrun⟩
  · rintro ⟨hstop, hrun⟩
    have hpos : s.length ≠ 0 := by
      intro hzero
      exact hrun.nonempty (by simp [Stretch.of, hzero])
    exact ⟨⟨by omega, hstop⟩, hrun⟩

theorem length_of_mem_runs {limit : Nat} {fragments : List Fragment} {s : Stretch}
    (h : s ∈ runs limit fragments) : (s.of fragments).length = s.length := by
  have hstop := (mem_runs.mp h).1
  simp only [Stretch.stop] at hstop
  simp only [Stretch.of, List.length_take, List.length_drop]
  omega

/-- Runs do not overlap: an item inside a run cannot start another, and a run ends with
its only item that has no follower. -/
theorem runs_pairwise (limit : Nat) (fragments : List Fragment) :
    (runs limit fragments).Pairwise fun s s' => s.stop ≤ s'.start := by
  have hall := (Stretch.all_pairwise fragments.length).filter fun s => isRun limit (s.of fragments)
  apply hall.imp_of_mem
  intro s s' hs hs' hlt
  have hlength := length_of_mem_runs hs
  have hlength' := length_of_mem_runs hs'
  obtain ⟨hstop, hrun⟩ := mem_runs.mp hs
  obtain ⟨hstop', hrun'⟩ := mem_runs.mp hs'
  have hpos := List.length_pos_iff.mpr hrun.nonempty
  have hpos' := List.length_pos_iff.mpr hrun'.nonempty
  apply Nat.le_of_not_lt
  intro hoverlap
  simp only [Stretch.stop] at hoverlap hstop hstop'
  rcases hlt with hstart | ⟨hstart, hshort⟩
  · have hf : fragments[s'.start]? = some fragments[s'.start] := List.getElem?_eq_getElem (by omega)
    have hhead : (s'.of fragments)[0]? = some fragments[s'.start] := by
      rw [Stretch.getElem?_of (by omega), Nat.add_zero, hf]
    have hinside : (s.of fragments)[s'.start - s.start]? = some fragments[s'.start] := by
      rw [Stretch.getElem?_of (by omega), Nat.add_sub_cancel' (by omega), hf]
    have hzero := hrun'.index_eq hhead
    have hindex := hrun.index_eq hinside
    omega
  · have hf : fragments[s.start + (s.length - 1)]? = some fragments[s.start + (s.length - 1)] :=
      List.getElem?_eq_getElem (by omega)
    have hlast : (s.of fragments)[s.length - 1]? = some fragments[s.start + (s.length - 1)] := by
      rw [Stretch.getElem?_of (by omega), hf]
    have hinside : (s'.of fragments)[s.length - 1]? = some fragments[s.start + (s.length - 1)] := by
      rw [Stretch.getElem?_of (by omega), ← hstart, hf]
    have hmore := hrun.more_eq hlast
    have hmore' := hrun'.more_eq hinside
    rw [hmore, hlength, hlength', decide_eq_decide] at hmore'
    omega

end Fragment

/-! ## Completing a frame in progress -/

namespace Assembly

/-- What becomes of a frame in progress if the fragments that come next complete it. -/
def completed? (limit : Nat) (a : Assembly) : List Fragment → Option Frame
  | [] => none
  | f :: rest =>
    if f.index.toNat = a.received ∧ a.data.length + f.payload.length ≤ limit then
      if f.more then completed? limit (a.extend f) rest else some (a.extend f).frame
    else none

variable {config : FrameConfig} (hstrict : config.reassembly = .strict)
include hstrict

/-- A fragment of index zero does not care what is in progress. -/
theorem accept_first (open? : Option Assembly) {f : Fragment} (h : f.index = 0) :
    accept config open? f = accept config none f := by
  simp [accept, continued, hstrict, h]

/-- Any other fragment is lost when nothing is in progress. -/
theorem accept_stray {f : Fragment} (h : f.index ≠ 0) : accept config none f = (none, none) := by
  simp [accept, continued, hstrict, h]

/-- It is lost together with a frame in progress that it does not continue. -/
theorem accept_gap {a : Assembly} {f : Fragment} (h : f.index ≠ 0)
    (hgap : f.index.toNat ≠ a.received) : accept config (some a) f = (none, none) := by
  simp [accept, continued, hstrict, h, Option.filter, Ne.symm hgap]

end Assembly

open Assembly

variable {config : FrameConfig}

/-- A fragment that continues a frame completes it, or leaves it to the fragments behind. -/
theorem assemble_continued {open? : Option Assembly} {a : Assembly} {f : Fragment}
    {rest : List Fragment} (hcontinued : continued config.reassembly open? f = some a)
    (hindex : f.index.toNat = a.received)
    (hrest : (assemble config (some (a.extend f)) rest).1 =
      ((a.extend f).completed? config.maxFrameSize rest).toList ++ (assemble config none rest).1) :
    (assemble config open? (f :: rest)).1 =
      (a.completed? config.maxFrameSize (f :: rest)).toList ++ (assemble config none rest).1 := by
  simp only [assemble_cons, accept, hcontinued, completed?]
  by_cases hsize : config.maxFrameSize < a.data.length + f.payload.length
  · simp [hsize, Nat.not_le.mpr hsize]
  · cases hmore : f.more <;> simp [hsize, Nat.not_lt.mp hsize, hindex, hrest]

/-- A frame in progress adds what it becomes to the frames that come out without it. -/
theorem assemble_open (hstrict : config.reassembly = .strict) (fragments : List Fragment)
    {a : Assembly} (hpos : 0 < a.received) :
    (assemble config (some a) fragments).1 =
      (a.completed? config.maxFrameSize fragments).toList ++ (assemble config none fragments).1 := by
  induction fragments generalizing a with
  | nil => rfl
  | cons f rest ih =>
    by_cases hfirst : f.index = 0
    · have hindex : f.index.toNat ≠ a.received := by
        simp only [hfirst, UInt8.toNat_zero]
        omega
      simp [assemble_cons, accept_first hstrict (some a) hfirst, completed?, hindex]
    · have hstray : (assemble config none (f :: rest)).1 = (assemble config none rest).1 := by
        simp [assemble_cons, accept_stray hstrict hfirst]
      rw [hstray]
      by_cases hnext : f.index.toNat = a.received
      · have hcontinued : continued config.reassembly (some a) f = some a := by
          simp [continued, hstrict, hfirst, Option.filter, hnext]
        exact assemble_continued hcontinued hnext (ih (Nat.succ_pos a.received))
      · simp [assemble_cons, accept_gap hstrict hfirst hnext, completed?, hnext]

/-- The frames are the one that starts at the first fragment, if any, and those behind it. -/
theorem assemble_first (hstrict : config.reassembly = .strict) (f : Fragment)
    (rest : List Fragment) :
    (assemble config none (f :: rest)).1 =
      ((start f).completed? config.maxFrameSize (f :: rest)).toList ++
        (assemble config none rest).1 := by
  by_cases hfirst : f.index = 0
  · have hcontinued : continued config.reassembly none f = some (start f) := by
      simp [continued, hstrict, hfirst]
    have hindex : f.index.toNat = (start f).received := by
      rw [hfirst]
      rfl
    exact assemble_continued hcontinued hindex (assemble_open hstrict rest (Nat.succ_pos 0))
  · have hindex : f.index.toNat ≠ 0 := by
      intro hzero
      exact hfirst (UInt8.toNat_inj.mp hzero)
    simp [assemble_cons, accept_stray hstrict hfirst, completed?, start, hindex]

/-! ## Frames as runs -/

/-- The fragments `before` have followers and count from zero, and `a` is what they
were joined to. -/
structure Assembly.Joins (before : List Fragment) (a : Assembly) : Prop where
  indices : before.map (fun f => f.index.toNat) = List.range before.length
  followers : before.map Fragment.more = List.replicate before.length true
  received : a.received = before.length
  data : a.data = before.flatMap Fragment.payload

theorem Assembly.joins_nil (f : Fragment) : (start f).Joins [] :=
  ⟨rfl, rfl, rfl, rfl⟩

theorem Assembly.Joins.extend {before : List Fragment} {a : Assembly} (h : a.Joins before)
    {f : Fragment} (hindex : f.index.toNat = a.received) (hmore : f.more = true) :
    (a.extend f).Joins (before ++ [f]) := by
  constructor
  · simp [List.range_succ, h.indices, hindex, h.received]
  · simp [List.replicate_succ', h.followers, hmore]
  · simp [Assembly.extend, h.received]
  · simp [Assembly.extend, h.data]

/-- A fragment in a run goes on where those before it end, and the run has room for it. -/
theorem Fragment.Run.continues {limit : Nat} {before rest : List Fragment} {f : Fragment}
    (hrun : Fragment.Run limit (before ++ f :: rest)) {a : Assembly} (h : a.Joins before) :
    f.index.toNat = a.received ∧ a.data.length + f.payload.length ≤ limit := by
  have hf : (before ++ f :: rest)[before.length]? = some f := by simp
  have hsize := hrun.size
  simp only [List.flatMap_append, List.flatMap_cons, List.length_append, ← h.data] at hsize
  exact ⟨(hrun.index_eq hf).trans h.received.symm, by omega⟩

/-- It has a follower exactly if the run goes on. -/
theorem Fragment.Run.more_iff {limit : Nat} {before rest : List Fragment} {f : Fragment}
    (hrun : Fragment.Run limit (before ++ f :: rest)) : f.more = true ↔ 0 < rest.length := by
  have hf : (before ++ f :: rest)[before.length]? = some f := by simp
  rw [hrun.more_eq hf, decide_eq_true_eq, List.length_append, List.length_cons]
  omega

/-- A last fragment that goes on where the others end makes a run of them. -/
theorem Assembly.Joins.run {limit : Nat} {before : List Fragment} {a : Assembly}
    (h : a.Joins before) {f : Fragment} (hindex : f.index.toNat = a.received)
    (hsize : a.data.length + f.payload.length ≤ limit) (hmore : f.more = false) :
    Fragment.Run limit (before ++ [f]) := by
  constructor
  · simp
  · simp [List.range_succ, h.indices, hindex, h.received]
  · have hbefore : (List.range before.length).map (fun i => decide (i < before.length)) =
        List.replicate before.length true := by
      rw [List.eq_replicate_iff]
      simp
    simp [List.range_succ, h.followers, hmore, hbefore]
  · simpa [h.data] using hsize

/-- The run that begins with `before` and ends among the fragments that come next, if there
is one, is what the frame in progress becomes. -/
theorem Assembly.Joins.completed_eq (limit : Nat) (fragments : List Fragment)
    {before : List Fragment} {a : Assembly} (h : a.Joins before) :
    ((List.range fragments.length).filter fun k =>
        Fragment.isRun limit (before ++ fragments.take (k + 1))).map
      (fun k => Frame.mk a.slot a.kind
        ((before ++ fragments.take (k + 1)).flatMap Fragment.payload)) =
      (a.completed? limit fragments).toList := by
  induction fragments generalizing before a with
  | nil => rfl
  | cons f rest ih =>
    rw [List.length_cons, List.range_succ_eq_map, List.filter_cons, List.filter_map]
    simp only [Function.comp_def, List.take_succ_cons, List.take_zero, completed?]
    by_cases hf : f.index.toNat = a.received ∧ a.data.length + f.payload.length ≤ limit
    · cases hmore : f.more with
      | true =>
        have hopen : Fragment.isRun limit (before ++ [f]) = false := by
          rw [Fragment.isRun_eq_false_iff]
          intro hrun
          exact Nat.lt_irrefl 0 (hrun.more_iff.mp hmore)
        have hnext := ih (h.extend hf.1 hmore)
        simpa [hopen, hf, Function.comp_def, Assembly.extend] using hnext
      | false =>
        have hlast := Fragment.isRun_iff.mpr (h.run hf.1 hf.2 hmore)
        have hnone : (List.range rest.length).filter (fun k =>
            Fragment.isRun limit (before ++ f :: rest.take (k + 1))) = [] := by
          rw [List.filter_eq_nil_iff]
          intro k hk hrun
          have hpos : 0 < (rest.take (k + 1)).length := by
            rw [List.mem_range] at hk
            rw [List.length_take]
            omega
          have hfollower := (Fragment.isRun_iff.mp hrun).more_iff.mpr hpos
          simp [hmore] at hfollower
        rw [if_pos hf, hnone]
        simp [hlast, Assembly.extend, Assembly.frame, h.data]
    · have hnot : ∀ more, Fragment.isRun limit (before ++ f :: more) = false := by
        intro more
        rw [Fragment.isRun_eq_false_iff]
        intro hrun
        exact hf (hrun.continues h)
      simp [hnot, hf]

/-- Runs of a sequence start at its first fragment or behind it. -/
theorem Fragment.runs_cons (limit : Nat) (f : Fragment) (rest : List Fragment) :
    Fragment.runs limit (f :: rest) =
      ((List.range (rest.length + 1)).filter fun k =>
          Fragment.isRun limit ((f :: rest).take (k + 1))).map (fun k => ⟨0, k + 1⟩) ++
        (Fragment.runs limit rest).map Stretch.behind := by
  rw [Fragment.runs, List.length_cons, Stretch.all_succ, List.filter_append, List.filter_map,
    List.filter_map]
  simp only [Function.comp_def, Stretch.of_behind]
  rfl

/-- The frames are the runs, in order. -/
theorem assemble_runs (hstrict : config.reassembly = .strict) (fragments : List Fragment) :
    (assemble config none fragments).1 =
      (Fragment.runs config.maxFrameSize fragments).map fun s =>
        Fragment.joined (s.of fragments) := by
  induction fragments with
  | nil => rfl
  | cons f rest ih =>
    have hfirst := (joins_nil f).completed_eq config.maxFrameSize (f :: rest)
    rw [assemble_first hstrict, Fragment.runs_cons, ← hfirst, ih, List.map_append, List.map_map,
      List.map_map]
    simp only [Function.comp_def, Stretch.of_behind]
    rfl

/-- A fresh framer stays fresh while nothing comes. -/
theorem Framer.feed_fresh_nil (config : FrameConfig) : feed { config } [] = ([], { config }) := by
  rw [feed_eq, List.append_nil, Fragment.scanAll_of_waiting rfl]
  rfl

/-- A fresh framer takes in pieces as their concatenation, also when there are none. -/
theorem Framer.runEach_fresh (config : FrameConfig) (pieces : List Bytes) :
    Framer.runEach feed { config } pieces = feed { config } pieces.flatten := by
  have hpieces := feed_runEach { config } [] pieces
  rwa [feed_fresh_nil, List.nil_append, List.nil_append] at hpieces

/-- A fresh framer gives what its fragments are joined to, in whatever pieces it gets them. -/
theorem Framer.runEach_feed_fresh (config : FrameConfig) (pieces : List Bytes) :
    (Framer.runEach Framer.feed { config } pieces).1 =
      (assemble config none (Fragment.scanAll config.maxChunk pieces.flatten).1).1 := by
  rw [runEach_fresh, feed_eq, List.nil_append]

/-- Where indices count, exactly the runs of the received fragments come out, in order:
the stretches that count 0, 1, 2, and so on, in which each fragment but the last has a
follower and which fit the frame size. A frame has the slot and the kind of the first
fragment of its run and the payloads of all, and no fragment is in two runs. It is the
same for a fresh framer that is fed bytes in which these fragments are found. -/
theorem assemble_strict (hstrict : config.reassembly = .strict) (fragments : List Fragment) :
    let runs := Fragment.runs config.maxFrameSize fragments
    let frames := runs.map fun s => Fragment.joined (s.of fragments)
    (assemble config none fragments).1 = frames ∧
      (∀ s, s ∈ runs ↔
        s.stop ≤ fragments.length ∧ Fragment.Run config.maxFrameSize (s.of fragments)) ∧
      runs.Pairwise (fun s s' => s.stop ≤ s'.start) ∧
      ∀ pieces, (Fragment.scanAll config.maxChunk pieces.flatten).1 = fragments →
        (Framer.runEach Framer.feed { config } pieces).1 = frames := by
  intro runs frames
  refine ⟨assemble_runs hstrict fragments, fun s => Fragment.mem_runs,
    Fragment.runs_pairwise _ fragments, ?_⟩
  intro pieces hpieces
  rw [Framer.runEach_feed_fresh, hpieces]
  exact assemble_runs hstrict fragments

/-- A stray fragment, a frame that starts anew, one with a fragment twice and one that is
too long are lost, and the two that are whole come out. -/
theorem assemble_strict_disturbed :
    let config : FrameConfig := { maxFrameSize := 3 }
    let fragments : List Fragment :=
      [⟨9, 1, 1, false, [0]⟩, ⟨0, 1, 0, true, [1]⟩, ⟨2, 1, 0, true, [2, 3]⟩, ⟨7, 0, 1, false, [4]⟩,
        ⟨3, 1, 0, true, [5]⟩, ⟨3, 1, 1, true, [6]⟩, ⟨3, 1, 1, true, [6]⟩, ⟨3, 1, 2, false, [7]⟩,
        ⟨4, 1, 0, true, [8, 8]⟩, ⟨4, 1, 1, false, [8, 8]⟩, ⟨5, 2, 0, false, []⟩]
    config.reassembly = .strict ∧ Fragment.runs config.maxFrameSize fragments = [⟨2, 2⟩, ⟨10, 1⟩] ∧
      (assemble config none fragments).1 = [⟨2, 1, [2, 3, 4]⟩, ⟨5, 2, []⟩] := by
  intro config fragments
  have hruns : Fragment.runs config.maxFrameSize fragments = [⟨2, 2⟩, ⟨10, 1⟩] := by decide +kernel
  have hframes : (assemble config none fragments).1 = _ := (assemble_strict rfl fragments).1
  refine ⟨rfl, hruns, ?_⟩
  rw [hframes, hruns]
  rfl

end HarnessLink
