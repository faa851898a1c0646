import Mathlib.Data.List.MinMax
import WiredTethering.Net.CommandRuns

/-!
# Commands that wait for each other

A function that feeds a command and drains it too may wait for a child that waits for it.  It
does not where the input fits into the pipe, as that of `scutil_show` does.
-/

namespace WiredTethering.Net.Commands

open WiredTethering.Memory
open WiredTethering.Common
open WiredTethering.Process
open WiredTethering.Transition

namespace Command

variable {F : Type} {plan : Plumbing} {capacity : Nat}
  {base : Descriptors (File StdPipe F)} {s : Command F}

/-! ## Waiting for each other -/

/-- The parent waits in a call. -/
def Blocked (plan : Plumbing) (capacity : Nat) (s : Command F) : Prop :=
  match s.pc with
  | .feeding off => off < plan.text.length ∧ s.procs.WriteBlocks capacity .input
  | .draining => plan.HasRoom s.got.length ∧ s.procs.ReadBlocks .output
  | .waiting => s.ended = none
  | _ => False

/-- The child's end of a pipe that the parent has closed. -/
theorem Sound.unwritten (sound : Sound plan base s) (usual : Usual base)
    (closed : ∀ fd, (fd, File.writes StdPipe.input) ∉ s.ends plan) :
    ¬ s.procs.Open (.writes .input) := by
  rintro (⟨fd, here⟩ | ⟨t, alive, child⟩)
  · rcases sound.parented.mem_of_lookup here with mem | old
    · exact closed fd mem
    · exact usual.unwritten fd .input old
  · exact (sound.drops t alive).1 child

theorem notMem_outRead (fd : Nat) : (fd, File.writes StdPipe.input) ∉ s.outRead plan := by
  rw [outRead, outEnds]
  split_ifs <;> simp

/-- The child waits for its input or its output only. -/
theorem Sound.unblocked (sound : Sound plan base s) {t : Descriptors (File StdPipe F)}
    (alive : s.procs.child = some t) (reads : ¬ s.procs.ReadBlocks .input)
    (writes : ¬ s.procs.WriteBlocks capacity .output) : s.procs.Unblocked capacity t := by
  obtain ⟨notIn, notOut⟩ := sound.drops t alive
  intro fd p
  cases p with
  | input => exact ⟨fun _ => reads, fun here => absurd ⟨fd, here⟩ notIn⟩
  | output => exact ⟨fun here => absurd ⟨fd, here⟩ notOut, fun _ => writes⟩

/-- A child that the parent waits for can go on. -/
theorem Sound.goes_on (sound : Sound plan base s) (usual : Usual base) (some_ : 0 < capacity)
    (fits : plan.outLen = none ∨ plan.text.length ≤ capacity)
    (blocked : s.Blocked plan capacity) :
    ∃ t, s.procs.child = some t ∧ s.procs.Unblocked capacity t := by
  rw [Blocked] at blocked
  split at blocked
  · rename_i off pc
    obtain ⟨more, full, reader⟩ := blocked
    have open_ : s.ends plan = s.inWrite plan ++ s.outRead plan := by rw [ends, pc]
    rcases fits with undrained | fits
    · have ends_ : s.ends plan = s.inWrite plan := by
        rw [open_, outRead, outEnds, undrained]
        exact List.append_nil _
      have unread (p : StdPipe) : ¬ s.procs.parent.Holds (.reads p) := by
        rintro ⟨fd, here⟩
        rcases sound.parented.mem_of_lookup here with mem | old
        · rw [ends_, inWrite, inEnds] at mem
          split_ifs at mem <;> simp at mem
        · exact usual.unread fd p old
      obtain ⟨t, alive, child⟩ := reader.resolve_left (unread .input)
      refine ⟨t, alive, sound.unblocked alive (fun waits => ?_) fun waits => ?_⟩
      · rw [waits.1] at full
        exact absurd full (Nat.not_le_of_lt some_)
      · rcases waits.2 with parent | ⟨t', alive', child'⟩
        · exact unread .output parent
        · exact (sound.drops t' alive').2 child'
    · have feeding := sound.phase.of_feeding pc
      have sent : (s.procs.queue .input).length ≤ off := by
        have written := congrArg List.length feeding.fed
        rw [Stream.written, List.length_append, List.length_take] at written
        rw [Procs.queue]
        omega
      omega
  · rename_i pc
    obtain ⟨room, empty, writer⟩ := blocked
    have ends_ : s.ends plan = s.outRead plan := by rw [ends, pc]
    have noWriter : ¬ s.procs.parent.Holds (.writes .output) := by
      rintro ⟨fd, here⟩
      rcases sound.parented.mem_of_lookup here with mem | old
      · rw [ends_, outRead, outEnds] at mem
        split_ifs at mem <;> simp at mem
      · exact usual.unwritten fd .output old
    obtain ⟨t, alive, child⟩ := writer.resolve_left noWriter
    refine ⟨t, alive, sound.unblocked alive (fun waits => ?_) fun waits => ?_⟩
    · exact sound.unwritten usual (fun fd => ends_ ▸ notMem_outRead fd) waits.2
    · have full := waits.1
      rw [empty] at full
      exact absurd full (Nat.not_le_of_lt some_)
  · rename_i pc
    obtain ⟨begun, -, -⟩ := sound.phase.of_waiting pc
    have ends_ : s.ends plan = [] := by rw [ends, pc]
    obtain ⟨t, alive⟩ := Option.ne_none_iff_exists'.mp fun none_ => begun.child.mp none_ blocked
    refine ⟨t, alive, sound.unblocked alive (fun waits => ?_) fun waits => ?_⟩
    · exact sound.unwritten usual (fun fd => ends_ ▸ List.not_mem_nil) waits.2
    · rcases waits.2 with parent | ⟨t', alive', child'⟩
      · exact sound.parented.unread usual ends_ .output parent
      · exact (sound.drops t' alive').2 child'
  · exact blocked.elim

/-! ## The standard numbers of the child -/

/-- What a child's standard numbers are open on. -/
structure Wired (plan : Plumbing) (base : Descriptors (File StdPipe F)) (s : Command F)
    (child : Descriptors (File StdPipe F)) : Prop where
  stdin : child.lookup 0 =
    if plan.input.isSome then some (.reads .input) else base.lookup 0
  stdout : child.lookup 1 =
    if plan.outLen.isSome then some (.writes .output) else base.lookup 1
  stderr : child.lookup 2 =
    if .dup2 s.outpipe.2 2 ∈ plan.actions s.inpipe s.outpipe then some (.writes .output)
    else base.lookup 2

/-- Both numbers of a pipe are open in the parent, beside what it began with. -/
structure Pair (base : Descriptors (File StdPipe F)) (s : Command F) (numbers : Pipefd)
    (p : StdPipe) : Prop where
  reads : s.procs.parent.lookup numbers.1 = some (.reads p)
  writes : s.procs.parent.lookup numbers.2 = some (.writes p)
  ne : numbers.1 ≠ numbers.2
  newRead : numbers.1 ∉ base
  newWrite : numbers.2 ∉ base

theorem inPair (beside : Beside base (s.inEnds plan ++ s.outEnds plan) s.procs.parent)
    (feeds : plan.input.isSome = true) : Pair base s s.inpipe .input := by
  have ends_ : s.inEnds plan = [(s.inpipe.1, .reads .input), (s.inpipe.2, .writes .input)] :=
    if_pos feeds
  have first : (s.inpipe.1, File.reads StdPipe.input) ∈ s.inEnds plan ++ s.outEnds plan := by
    simp [ends_]
  have second : (s.inpipe.2, File.writes StdPipe.input) ∈ s.inEnds plan ++ s.outEnds plan := by
    simp [ends_]
  exact ⟨beside.own _ first, beside.own _ second, inEnds_ne beside feeds, beside.fresh _ first,
    beside.fresh _ second⟩

theorem outPair (beside : Beside base (s.inEnds plan ++ s.outEnds plan) s.procs.parent)
    (drains : plan.outLen.isSome = true) : Pair base s s.outpipe .output := by
  have ends_ : s.outEnds plan =
      [(s.outpipe.1, .reads .output), (s.outpipe.2, .writes .output)] := if_pos drains
  have first : (s.outpipe.1, File.reads StdPipe.output) ∈ s.inEnds plan ++ s.outEnds plan := by
    simp [ends_]
  have second : (s.outpipe.2, File.writes StdPipe.output) ∈ s.inEnds plan ++ s.outEnds plan := by
    simp [ends_]
  exact ⟨beside.own _ first, beside.own _ second, outEnds_ne beside drains,
    beside.fresh _ first, beside.fresh _ second⟩

theorem Usual.ne (usual : Usual base) {fd : Nat} (new : fd ∉ base) :
    0 ≠ fd ∧ 1 ≠ fd ∧ 2 ≠ fd := by
  refine ⟨?_, ?_, ?_⟩
  · exact fun same => new (same ▸ usual.stdin)
  · exact fun same => new (same ▸ usual.stdout)
  · exact fun same => new (same ▸ usual.stderr)

theorem mem_of_lookup {t : Descriptors (File StdPipe F)} {fd : Nat} {f : File StdPipe F}
    (here : t.lookup fd = some f) : fd ∈ t :=
  AList.lookup_isSome.mp (by rw [here]; rfl)

theorem spawned_child (command : IsCommand plan) (usual : Usual base)
    (beside : Beside base (s.inEnds plan ++ s.outEnds plan) s.procs.parent) :
    ∃ child, actAll s.procs.parent (plan.actions s.inpipe s.outpipe) = some child ∧
      Wired plan base s child := by
  have stdin := beside.lookup_base usual.stdin
  have stdout := beside.lookup_base usual.stdout
  have stderr := beside.lookup_base usual.stderr
  cases command with
  | runCmd =>
      exact ⟨s.procs.parent, rfl, by simp [runCmd, stdin], by simp [runCmd, stdout],
        by simp [runCmd, stderr]⟩
  | captureCmd outLen =>
      obtain ⟨reads, writes, ne, newRead, newWrite⟩ := outPair beside rfl
      obtain ⟨zero, one, two⟩ := usual.ne newRead
      have open_ := mem_of_lookup reads
      refine ⟨(s.procs.parent.insert 1 (.writes .output)).erase s.outpipe.1, ?_, ?_, ?_, ?_⟩
      · simp [captureCmd, actAll, FileAction.act, writes, open_]
      · simp [captureCmd, AList.lookup_erase_ne, zero, stdin]
      · simp [captureCmd, AList.lookup_erase_ne, one]
      · simp [captureCmd, AList.lookup_erase_ne, two, stderr]
  | captureCmdMerged outLen =>
      obtain ⟨reads, writes, ne, newRead, newWrite⟩ := outPair beside rfl
      obtain ⟨zero, one, two⟩ := usual.ne newRead
      obtain ⟨-, one', -⟩ := usual.ne newWrite
      have open_ := mem_of_lookup reads
      refine ⟨((s.procs.parent.insert 1 (.writes .output)).insert 2 (.writes .output)).erase
        s.outpipe.1, ?_, ?_, ?_, ?_⟩
      · simp [captureCmdMerged, actAll, FileAction.act, writes, open_,
          AList.lookup_insert_ne one'.symm]
      · simp [captureCmdMerged, AList.lookup_erase_ne, zero, stdin]
      · simp [captureCmdMerged, AList.lookup_erase_ne, one]
      · simp [captureCmdMerged, AList.lookup_erase_ne, two]
  | runCmdStdin input =>
      obtain ⟨reads, writes, ne, newRead, newWrite⟩ := inPair beside rfl
      obtain ⟨zero, one, two⟩ := usual.ne newRead
      obtain ⟨zero', one', two'⟩ := usual.ne newWrite
      have open_ := mem_of_lookup reads
      have open_' := mem_of_lookup writes
      refine ⟨((s.procs.parent.insert 0 (.reads .input)).erase s.inpipe.2).erase s.inpipe.1,
        ?_, ?_, ?_, ?_⟩
      · simp [runCmdStdin, actAll, FileAction.act, reads, open_, open_', ne, zero.symm]
      · simp [runCmdStdin, AList.lookup_erase_ne, zero, zero']
      · simp [runCmdStdin, AList.lookup_erase_ne, one, one', stdout]
      · simp [runCmdStdin, AList.lookup_erase_ne, two, two', stderr, zero.symm]
  | captureCmdStdin input outLen =>
      obtain ⟨reads, writes, ne, newRead, newWrite⟩ := inPair beside rfl
      obtain ⟨reads', writes', ne', newRead', newWrite'⟩ := outPair beside rfl
      have i₁ := usual.ne newRead
      have i₂ := usual.ne newWrite
      have o₁ := usual.ne newRead'
      have o₂ := usual.ne newWrite'
      have mem_i₁ := mem_of_lookup reads
      have mem_i₂ := mem_of_lookup writes
      have mem_o₁ := mem_of_lookup reads'
      have mem_o₂ := mem_of_lookup writes'
      have differ {i o : Nat} {p q : File StdPipe F} (here : s.procs.parent.lookup i = some p)
          (there : s.procs.parent.lookup o = some q) (other : p ≠ q) : i ≠ o := by
        rintro rfl
        exact other (Option.some.inj (here.symm.trans there))
      have i₁o₁ := differ reads reads' (by simp)
      have i₁o₂ := differ reads writes' (by simp)
      have i₂o₁ := differ writes reads' (by simp)
      have i₂o₂ := differ writes writes' (by simp)
      refine ⟨((((((s.procs.parent.insert 0 (.reads .input)).insert 1 (.writes .output)).insert 2
        (.writes .output)).erase s.inpipe.2).erase s.outpipe.1).erase s.inpipe.1).erase
          s.outpipe.2, ?_, ?_, ?_, ?_⟩
      · simp [captureCmdStdin, actAll, FileAction.act, reads, writes', ne, ne'.symm, mem_i₁,
          mem_i₂, mem_o₁, mem_o₂, i₁.1.symm, i₁o₁, i₁o₂.symm, i₂o₁.symm, i₂o₂.symm,
          o₂.1.symm, o₂.2.1.symm, o₂.2.2.symm]
      · simp [captureCmdStdin, AList.lookup_erase_ne, i₁, i₂, o₁, o₂]
      · simp [captureCmdStdin, AList.lookup_erase_ne, i₁, i₂, o₁, o₂]
      · simp [captureCmdStdin, AList.lookup_erase_ne, i₁, i₂, o₁, o₂]

variable [DecidableEq F]

/-- The file actions never fail.  The child has its ends of the pipes at its standard numbers, and
none of the parent's ends. -/
theorem spawned_wired (command : IsCommand plan) (usual : Usual base)
    {labels : List CommandLabel}
    (ran : Transition.run (step plan capacity) (.start plan base) labels = some s)
    (pc : s.pc = .spawning) :
    ∃ child, actAll s.procs.parent (plan.actions s.inpipe s.outpipe) = some child ∧
      Wired plan base s child ∧ ¬ child.Holds (.writes .input) ∧
      ¬ child.Holds (.reads .output) := by
  have beside := (Sound.run command usual ran).parented
  rw [Parented, ends, pc] at beside
  obtain ⟨child, acted, wired⟩ := spawned_child command usual beside
  exact ⟨child, acted, wired, spawned_drops usual (seals command _ _) beside acted⟩

theorem spawned_wired_capture :
    ∃ s : Command Unit, Transition.run (step (captureCmd 16) 512)
        (.start (captureCmd 16) standardNumbers) [.piped (some (3, 4))] = some s ∧
      ∃ child, actAll s.procs.parent ((captureCmd 16).actions s.inpipe s.outpipe) = some child ∧
        child.lookup 1 = some (.writes .output) ∧ ¬ child.Holds (.reads .output) := by
  obtain ⟨s, ran⟩ : ∃ s : Command Unit, Transition.run (step (captureCmd 16) 512)
      (.start (captureCmd 16) standardNumbers) [.piped (some (3, 4))] = some s :=
    Option.isSome_iff_exists.mp (by decide +kernel)
  have observed : (Transition.run (step (captureCmd 16) 512)
      (.start (captureCmd 16) standardNumbers) [.piped (some (3, 4))]).map Command.pc =
        some .spawning := by
    decide +kernel
  rw [ran, Option.map_some, Option.some.injEq] at observed
  obtain ⟨child, acted, wired, -, unread⟩ :=
    spawned_wired (.captureCmd 16) standardNumbers_usual ran observed
  exact ⟨s, ran, child, acted, wired.stdout, unread⟩

/-! ## A refused call -/

/-- Nothing happens in a call that is refused. -/
theorem refused_returns (refused : plan.refused = true) {labels : List CommandLabel}
    (ran : Transition.run (step plan capacity) (.start plan base) labels = some s) :
    s.pc = .returned (-1) := by
  have first : (Command.start plan base).pc = .returned (-1) := if_pos refused
  cases labels with
  | nil =>
      cases ran
      exact first
  | cons label labels =>
      obtain ⟨next, stepped, -⟩ := run_cons_eq_some_iff.mp ran
      cases step_moves stepped with
      | read pc => rw [first] at pc; cases pc
      | child alive => cases alive
      | childExits alive => cases alive
      | _ pc => rw [first] at pc; cases pc

/-! ## The way to a hang -/

omit [DecidableEq F] in
theorem exists_free (base : Descriptors (File StdPipe F)) : ∃ n, ∀ k, n ≤ k → k ∉ base := by
  refine ⟨base.keys.foldr max 0 + 1, fun k above mem => ?_⟩
  have below : k ≤ base.keys.foldr max 0 := List.le_max_of_le' 0 (AList.mem_keys.mp mem) le_rfl
  omega

/-- A child can be started from anywhere. -/
theorem exists_released (usual : Usual base) (capacity : Nat) (input : Bytes) {outLen : Nat}
    (asked : outLen ≠ 0) :
    ∃ labels s t, Transition.run (step (captureCmdStdin input outLen) capacity)
        (.start (captureCmdStdin input outLen) base) labels = some s ∧
      s.pc = .feeding 0 ∧ s.procs.child = some t ∧
      t.lookup 0 = some (.reads .input) ∧ t.lookup 1 = some (.writes .output) ∧
      s.procs.pipes = fun _ => .empty := by
  obtain ⟨n, free⟩ := exists_free base
  let plan := captureCmdStdin input outLen
  let s₀ : Command F := .start plan base
  let s₁ : Command F := { s₀ with
    pc := .pipingOut
    procs := { s₀.procs with parent := s₀.pipe .input (n, n + 1) }
    inpipe := (n, n + 1) }
  let s₂ : Command F := { s₁ with
    pc := .spawning
    procs := { s₁.procs with parent := s₁.pipe .output (n + 2, n + 3) }
    outpipe := (n + 2, n + 3) }
  have free₀ : s₀.Free (n, n + 1) :=
    ⟨free n le_rfl, free (n + 1) (Nat.le_add_right n 1), Nat.ne_of_lt (Nat.lt_succ_self n)⟩
  have free₁ : s₁.Free (n + 2, n + 3) := by
    have two := free (n + 2) (Nat.le_add_right n 2)
    have three := free (n + 3) (Nat.le_add_right n 3)
    refine ⟨?_, ?_, by simp⟩
    · simpa [s₁, s₀, pipe, Command.start, AList.mem_insert] using two
    · simpa [s₁, s₀, pipe, Command.start, AList.mem_insert] using three
  have accepted : s₀.pc = .pipingIn := if_neg (ne_true_of_eq_false (decide_eq_false asked))
  have first : step plan capacity s₀ (.piped (some (n, n + 1))) = some s₁ := by
    change s₀.answer plan capacity s₀.pc (.piped (some (n, n + 1))) = some s₁
    rw [accepted]
    exact if_pos free₀
  have second : step plan capacity s₁ (.piped (some (n + 2, n + 3))) = some s₂ := if_pos free₁
  have ran : Transition.run (step plan capacity) s₀
      [.piped (some (n, n + 1)), .piped (some (n + 2, n + 3))] = some s₂ := by
    rw [run_cons, first, Option.bind_some, run_cons, second, Option.bind_some, run_nil]
  have beside := (Sound.run (.captureCmdStdin input outLen) usual ran).parented
  obtain ⟨t, acted, wired⟩ := spawned_child (.captureCmdStdin input outLen) usual beside
  let s₃ : Command F := { s₂ with pc := .releasing, procs := { s₂.procs with child := some t } }
  have third : step plan capacity s₂ (.spawned true) = some s₃ := by
    change (actAll s₂.procs.parent (plan.actions s₂.inpipe s₂.outpipe)).map _ = some s₃
    rw [acted]
    rfl
  refine ⟨[.piped (some (n, n + 1)), .piped (some (n + 2, n + 3)), .spawned true, .released],
    (s₃.close (s₃.inRead plan ++ s₃.outWrite plan)).goto plan.feedPc, t, ?_, rfl, rfl,
    wired.stdin, wired.stdout, rfl⟩
  rw [run_cons, first, Option.bind_some, run_cons, second, Option.bind_some, run_cons, third]
  rfl

/-- A function that feeds more than a pipe holds before it drains may hang. -/
theorem exists_hang (usual : Usual base) (some_ : 0 < capacity) {input : Bytes}
    (long : capacity < input.length) {outLen : Nat} (asked : outLen ≠ 0) :
    ∃ labels s t, Transition.run (step (captureCmdStdin input outLen) capacity)
        (.start (captureCmdStdin input outLen) base) labels = some s ∧
      s.Blocked (captureCmdStdin input outLen) capacity ∧ s.procs.child = some t ∧
      ¬ s.procs.Unblocked capacity t := by
  obtain ⟨labels, s, t, ran, pc, alive, stdin, stdout, silent⟩ :=
    exists_released usual capacity input asked
  let plan := captureCmdStdin input outLen
  let data := (input.drop 0).take capacity
  have length : data.length = capacity := by
    change ((input.drop 0).take capacity).length = capacity
    rw [List.drop_zero, List.length_take, Nat.min_eq_left long.le]
  have beside := (Sound.run (.captureCmdStdin input outLen) usual ran).parented
  have open_ : s.ends plan = [(s.inpipe.2, .writes .input), (s.outpipe.1, .reads .output)] := by
    rw [ends, pc]
    rfl
  rw [Parented, open_] at beside
  have reader : s.procs.parent.Holds (.reads .output) :=
    ⟨s.outpipe.1, beside.own (s.outpipe.1, .reads .output) (by simp)⟩
  have empty (p : StdPipe) : s.procs.queue p = [] := by
    rw [Procs.queue, silent]
    rfl
  have canFeed : s.procs.CanPut capacity .input data := by
    refine ⟨fun none_ => ?_, ?_, .inr ⟨t, alive, 0, stdin⟩⟩
    · rw [none_] at length
      exact some_.ne length
    · rw [empty, length]
      exact (Nat.zero_add capacity).le
  let s₁ : Command F := { s with pc := .feeding (0 + capacity), procs := s.procs.put .input data }
  have fed : step plan capacity s (.wrote capacity) = some s₁ := by
    change s.answer plan capacity s.pc (.wrote capacity) = some s₁
    rw [pc]
    exact if_pos ⟨(Nat.zero_add capacity).le.trans long.le, canFeed⟩
  have canPrint : s₁.procs.CanPut capacity .output (List.replicate capacity 0) := by
    refine ⟨fun none_ => ?_, ?_, .inl reader⟩
    · exact some_.ne' ((List.replicate_eq_nil_iff _).mp none_)
    · have queue : s₁.procs.queue .output = [] := empty .output
      rw [queue, List.length_replicate]
      exact (Nat.zero_add capacity).le
  let s₂ : Command F :=
    { s₁ with procs := s₁.procs.put .output (List.replicate capacity 0) }
  have printed :
      step plan capacity s₁ (.child (.write 1 (List.replicate capacity 0))) = some s₂ := by
    have alive₁ : s₁.procs.child = some t := alive
    change (s₁.procs.child.bind fun t => _) = some s₂
    rw [alive₁, Option.bind_some, Procs.childStep, stdout]
    dsimp only
    rw [if_pos canPrint]
    rfl
  refine ⟨labels ++ [.wrote capacity, .child (.write 1 (List.replicate capacity 0))], s₂, t, ?_,
    ?_, alive, fun unblocked => ?_⟩
  · rw [run_append, ran, Option.bind_some, run_cons, fed, Option.bind_some, run_cons, printed]
    rfl
  · refine ⟨(Nat.zero_add capacity).symm ▸ long, ?_, .inr ⟨t, alive, 0, stdin⟩⟩
    have queue : s₂.procs.queue .input = s.procs.queue .input ++ data := by
      simp [s₂, s₁, Procs.queue, Procs.put, Stream.put]
    rw [queue, empty, List.nil_append, length]
  · apply (unblocked 1 .output).2 stdout
    refine ⟨?_, .inl reader⟩
    have queue : s₂.procs.queue .output =
        s.procs.queue .output ++ List.replicate capacity 0 := by
      simp [s₂, s₁, Procs.queue, Procs.put, Stream.put]
    rw [queue, empty, List.nil_append, List.length_replicate]

/-- No call of a function waits for a child that waits itself, if and only if the function refuses
its arguments or does not feed more than a pipe holds before it drains. -/
theorem never_hangs_iff (command : IsCommand plan) (usual : Usual base) (some_ : 0 < capacity) :
    (∀ labels s, Transition.run (step plan capacity) (.start plan base) labels = some s →
        s.Blocked plan capacity →
          ∃ t, s.procs.child = some t ∧ s.procs.Unblocked capacity t) ↔
      (plan.refused = true ∨ plan.outLen = none ∨ plan.text.length ≤ capacity) := by
  constructor
  · intro never
    cases command with
    | runCmd => exact .inr (.inl rfl)
    | captureCmd outLen => exact .inr (.inr (Nat.zero_le capacity))
    | captureCmdMerged outLen => exact .inr (.inr (Nat.zero_le capacity))
    | runCmdStdin input => exact .inr (.inl rfl)
    | captureCmdStdin input outLen =>
        by_cases asked : outLen = 0
        · exact .inl (decide_eq_true asked)
        · refine .inr (.inr (not_lt.mp fun long => ?_))
          obtain ⟨labels, s, t, ran, blocked, alive, hangs⟩ := exists_hang usual some_ long asked
          obtain ⟨t', alive', unblocked⟩ := never labels s ran blocked
          rw [alive] at alive'
          cases alive'
          exact hangs unblocked
  · rintro (refused | fits) labels s ran blocked
    · rw [Blocked, refused_returns refused ran] at blocked
      exact blocked.elim
    · exact (Sound.run command usual ran).goes_on usual some_ fits blocked

/-- A script of eight bytes and pipes of seven. -/
theorem never_hangs_iff_script :
    ¬ ∀ labels (s : Command Unit),
      Transition.run (step (captureCmdStdin (cstr "show Key") 16) 7)
          (.start (captureCmdStdin (cstr "show Key") 16) standardNumbers) labels = some s →
        s.Blocked (captureCmdStdin (cstr "show Key") 16) 7 →
          ∃ t, s.procs.child = some t ∧ s.procs.Unblocked 7 t := by
  intro never
  have fits := (never_hangs_iff (.captureCmdStdin (cstr "show Key") 16) standardNumbers_usual
    (by decide)).mp never
  rcases fits with refused | none_ | short
  · cases refused
  · cases none_
  · exact absurd short (by decide)

end Command

/-! ## `scutil_show` -/

/-- The script is printed into an array of 512 bytes. -/
def scutilShow (key : Bytes) (outLen : Nat) : Plumbing :=
  captureCmdStdin ((cstr "show " ++ key ++ cstr "\n").take 511) outLen

/-- The smallest pipe there is takes the script, so that whatever the child calls finds something,
has room or finds that nobody is there any more. -/
theorem scutilShow_goes_on {F : Type} [DecidableEq F] {base : Descriptors (File StdPipe F)}
    (usual : Command.Usual base) {capacity : Nat} (posix : 512 ≤ capacity) (key : Bytes)
    (outLen : Nat) {labels : List CommandLabel} {s : Command F}
    (ran : run (Command.step (scutilShow key outLen) capacity)
      (.start (scutilShow key outLen) base) labels = some s)
    (blocked : s.Blocked (scutilShow key outLen) capacity) :
    ∃ t, s.procs.child = some t ∧ ∀ fd p,
      (t.lookup fd = some (.reads p) → s.procs.CanTake p 1 ∨ s.procs.Ended p) ∧
        (t.lookup fd = some (.writes p) →
          ∀ b, s.procs.CanPut capacity p [b] ∨ ¬ s.procs.Open (.reads p)) := by
  have command : IsCommand (scutilShow key outLen) := .captureCmdStdin _ outLen
  have sound := Command.Sound.run command usual ran
  have short : (scutilShow key outLen).text.length ≤ 511 := List.length_take_le _ _
  obtain ⟨t, alive, unblocked⟩ := sound.goes_on usual (by omega) (.inr (by omega)) blocked
  refine ⟨t, alive, fun fd p => ⟨fun reads => ?_, fun writes b => ?_⟩⟩
  · exact Procs.canTake_or_ended ((unblocked fd p).1 reads)
  · exact Procs.canPut_or_unread ((unblocked fd p).2 writes) b

end WiredTethering.Net.Commands
