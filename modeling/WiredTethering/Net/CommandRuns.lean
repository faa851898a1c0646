import WiredTethering.Net.Commands

/-!
# What an external command leaves behind

The parent always knows which ends of the pipes it has, and the child never has one of them.
From this it follows what a function returns: everything that it opened is closed, the child has
been given its input, and the output is what `Net.Host` says.
-/

namespace WiredTethering.Net.Commands

open WiredTethering.Memory
open WiredTethering.Common
open WiredTethering.Process
open WiredTethering.Transition

namespace Command

variable {F : Type}

/-! ## The numbers of the parent -/

/-- What the parent has open beside what it began with. -/
def ends (s : Command F) (plan : Plumbing) : List (Nat × File StdPipe F) :=
  match s.pc with
  | .pipingIn => []
  | .pipingOut => s.inEnds plan
  | .spawning => s.inEnds plan ++ s.outEnds plan
  | .releasing => s.inEnds plan ++ s.outEnds plan
  | .feeding _ => s.inWrite plan ++ s.outRead plan
  | .draining => s.outRead plan
  | .waiting => []
  | .returned _ => []

theorem perm_release (s : Command F) (plan : Plumbing) :
    (s.inEnds plan ++ s.outEnds plan).Perm
      (s.inRead plan ++ s.outWrite plan ++ (s.inWrite plan ++ s.outRead plan)) := by
  have inEnds : s.inEnds plan = s.inRead plan ++ s.inWrite plan :=
    (List.take_append_drop 1 _).symm
  have outEnds : s.outEnds plan = s.outRead plan ++ s.outWrite plan :=
    (List.take_append_drop 1 _).symm
  rw [inEnds, outEnds, List.append_assoc, List.append_assoc]
  refine .append_left _ ?_
  rw [← List.append_assoc]
  exact List.perm_append_comm

theorem ends_drainPc (s : Command F) (plan : Plumbing) :
    (s.goto plan.drainPc).ends plan = s.outRead plan := by
  cases drains : plan.outLen with
  | none => simp [goto, Plumbing.drainPc, ends, outRead, outEnds, drains]
  | some n => simp [goto, Plumbing.drainPc, ends, outRead, outEnds, drains]

theorem ends_feedPc (s : Command F) (plan : Plumbing) :
    (s.goto plan.feedPc).ends plan = s.inWrite plan ++ s.outRead plan := by
  cases feeds : plan.input with
  | none =>
      have none_ : s.inWrite plan = [] := by simp [inWrite, inEnds, feeds]
      have pc : plan.feedPc = plan.drainPc := by simp [Plumbing.feedPc, feeds]
      rw [pc, ends_drainPc, none_, List.nil_append]
  | some input => simp [goto, Plumbing.feedPc, ends, feeds, inWrite, outRead, inEnds, outEnds]

/-- The parent has what it began with and its ends of the pipes. -/
def Parented (plan : Plumbing) (base : Descriptors (File StdPipe F)) (s : Command F) : Prop :=
  Beside base (s.ends plan) s.procs.parent

variable {plan : Plumbing} {capacity : Nat} {base : Descriptors (File StdPipe F)}
  {s next : Command F}

theorem Parented.pipe (parented : Parented plan base s) {numbers : Pipefd}
    (free : s.Free numbers) (p : StdPipe) :
    Beside base (s.ends plan ++ [(numbers.1, .reads p), (numbers.2, .writes p)])
      (s.pipe p numbers) := by
  have first := parented.cons (.reads p) free.1
  have free₂ : numbers.2 ∉ s.procs.parent.insert numbers.1 (.reads p) := by
    rw [AList.mem_insert, not_or]
    exact ⟨free.2.2.symm, free.2.1⟩
  refine (first.cons (.writes p) free₂).perm ?_
  rw [← List.singleton_append, ← List.singleton_append (l := s.ends plan), ← List.append_assoc]
  refine List.perm_append_comm.trans (.append_left _ ?_)
  exact List.Perm.swap _ _ []

theorem planned_kept (moves : s.Moves plan capacity next) (planned : plan.Pipes s.pc) :
    plan.Pipes next.pc := by
  cases moves with
  | pipedIn pc free =>
      cases drains : plan.outLen with
      | none => trivial
      | some n => simp [Plumbing.Pipes, drains]
  | released pc =>
      rw [goto, Plumbing.feedPc, Plumbing.drainPc]
      split_ifs <;> trivial
  | writeFailed pc =>
      rw [goto, Plumbing.drainPc]
      split_ifs <;> trivial
  | fed pc all =>
      rw [goto, Plumbing.drainPc]
      split_ifs <;> trivial
  | read pc room can => exact planned
  | child alive moves => exact planned
  | childExits alive ended => exact planned
  | _ => trivial

/-- The parent knows its ends behind every step. -/
theorem parented_kept (moves : s.Moves plan capacity next) (planned : plan.Pipes s.pc)
    (parented : Parented plan base s) : Parented plan base next := by
  cases moves with
  | unpipedIn pc =>
      rw [Parented, ends, pc] at parented
      exact parented
  | @pipedIn numbers pc free =>
      have piped := parented.pipe free .input
      rw [pc] at planned
      have feeds : plan.input.isSome = true := planned
      rw [ends, pc, List.nil_append] at piped
      cases drains : plan.outLen with
      | none => simpa [Parented, ends, inEnds, outEnds, drains, feeds] using piped
      | some n => simpa [Parented, ends, inEnds, drains, feeds] using piped
  | unpipedOut pc =>
      rw [Parented, ends, pc] at parented
      exact parented.closeEvery
  | @pipedOut numbers pc free =>
      have piped := parented.pipe free .output
      rw [pc] at planned
      rw [ends, pc] at piped
      have outEnds : outEnds { s with
          pc := .spawning
          procs := { s.procs with parent := s.pipe .output numbers }
          outpipe := numbers } plan =
            [(numbers.1, .reads .output), (numbers.2, .writes .output)] := if_pos planned
      rw [Parented, ends, outEnds]
      exact piped
  | spawned pc acted =>
      rw [Parented, ends, pc] at parented
      exact parented
  | unspawned pc =>
      rw [Parented, ends, pc] at parented
      exact parented.closeEvery
  | released pc =>
      rw [Parented, ends, pc] at parented
      rw [Parented, ends_feedPc]
      exact (parented.perm (s.perm_release plan)).closeAll
  | wrote pc inside =>
      rw [Parented, ends, pc] at parented
      exact parented
  | writeFailed pc =>
      rw [Parented, ends, pc] at parented
      have same : ends { (s.close (s.inWrite plan)).goto plan.drainPc with starved := true } plan =
          s.outRead plan := ends_drainPc (s.close (s.inWrite plan)) plan
      rw [Parented, same]
      exact parented.closeAll
  | fed pc all =>
      rw [Parented, ends, pc] at parented
      rw [Parented, ends_drainPc]
      exact parented.closeAll
  | read pc room can =>
      rw [Parented, ends, pc] at parented
      rw [Parented, ends, pc]
      exact parented
  | readEnd pc room ended =>
      rw [Parented, ends, pc] at parented
      exact parented.closeEvery
  | readFailed pc =>
      rw [Parented, ends, pc] at parented
      exact parented.closeEvery
  | filled pc full =>
      rw [Parented, ends, pc] at parented
      exact parented.closeEvery
  | waited pc over_ =>
      rw [Parented, ends, pc] at parented
      exact parented
  | waitFailed pc =>
      rw [Parented, ends, pc] at parented
      exact parented
  | child alive moves =>
      cases moves with
      | took reads can => exact parented
      | wrote writes can => exact parented
      | closed fd => exact parented
  | childExits alive ended => exact parented

/-! ## The numbers of the child -/

/-- The standard numbers are open, and nothing is open on the pipes yet. -/
structure Usual (base : Descriptors (File StdPipe F)) : Prop where
  stdin : 0 ∈ base
  stdout : 1 ∈ base
  stderr : 2 ∈ base
  unread : ∀ fd p, base.lookup fd ≠ some (.reads p)
  unwritten : ∀ fd p, base.lookup fd ≠ some (.writes p)

/-- The file actions close the parent's ends and copy the child's only. -/
structure Seals (plan : Plumbing) (inpipe outpipe : Pipefd) : Prop where
  input : plan.input.isSome = true → .close inpipe.2 ∈ plan.actions inpipe outpipe
  output : plan.outLen.isSome = true → .close outpipe.1 ∈ plan.actions inpipe outpipe
  copies : ∀ a ∈ plan.actions inpipe outpipe, ∀ n, a.reads = some n →
    plan.input.isSome = true ∧ n = inpipe.1 ∨ plan.outLen.isSome = true ∧ n = outpipe.2

theorem seals (command : IsCommand plan) (inpipe outpipe : Pipefd) :
    Seals plan inpipe outpipe := by
  cases command with
  | runCmd => exact ⟨by simp [runCmd], by simp [runCmd], by simp [runCmd]⟩
  | captureCmd outLen =>
      exact ⟨by simp [captureCmd], by simp [captureCmd],
        by simp [captureCmd, FileAction.reads]⟩
  | captureCmdMerged outLen =>
      exact ⟨by simp [captureCmdMerged], by simp [captureCmdMerged],
        by simp [captureCmdMerged, FileAction.reads]⟩
  | runCmdStdin input =>
      refine ⟨by simp [runCmdStdin], by simp [runCmdStdin], ?_⟩
      rw [runCmdStdin]
      dsimp only
      split_ifs <;> simp [FileAction.reads]
  | captureCmdStdin input outLen =>
      refine ⟨by simp [captureCmdStdin], by simp [captureCmdStdin], ?_⟩
      rw [captureCmdStdin]
      dsimp only
      split_ifs <;> simp [FileAction.reads]

theorem mem_ends {fd : Nat} {f : File StdPipe F}
    (mem : (fd, f) ∈ s.inEnds plan ++ s.outEnds plan) :
    plan.input.isSome = true ∧
        (fd = s.inpipe.1 ∧ f = .reads .input ∨ fd = s.inpipe.2 ∧ f = .writes .input) ∨
      plan.outLen.isSome = true ∧
        (fd = s.outpipe.1 ∧ f = .reads .output ∨ fd = s.outpipe.2 ∧ f = .writes .output) := by
  rcases List.mem_append.mp mem with mem | mem
  · rw [inEnds] at mem
    split_ifs at mem with feeds
    · simp only [List.mem_cons, List.not_mem_nil, or_false, Prod.mk.injEq] at mem
      exact .inl ⟨feeds, mem⟩
    · cases mem
  · rw [outEnds] at mem
    split_ifs at mem with drains
    · simp only [List.mem_cons, List.not_mem_nil, or_false, Prod.mk.injEq] at mem
      exact .inr ⟨drains, mem⟩
    · cases mem

theorem inEnds_ne (beside : Beside base (s.inEnds plan ++ s.outEnds plan) s.procs.parent)
    (feeds : plan.input.isSome = true) : s.inpipe.1 ≠ s.inpipe.2 := by
  have distinct := beside.distinct
  rw [inEnds, if_pos feeds] at distinct
  simp only [List.cons_append, List.map_cons, List.nodup_cons, List.mem_cons, not_or] at distinct
  exact distinct.1.1

theorem outEnds_ne (beside : Beside base (s.inEnds plan ++ s.outEnds plan) s.procs.parent)
    (drains : plan.outLen.isSome = true) : s.outpipe.1 ≠ s.outpipe.2 := by
  have distinct := (List.nodup_append.mp (List.map_append ▸ beside.distinct)).2.1
  rw [outEnds, if_pos drains] at distinct
  simp only [List.map_cons, List.nodup_cons, List.mem_cons, not_or] at distinct
  exact distinct.1.1

theorem ends_ne (beside : Beside base (s.inEnds plan ++ s.outEnds plan) s.procs.parent)
    {i o : Nat × File StdPipe F} (mem : i ∈ s.inEnds plan) (mem' : o ∈ s.outEnds plan) :
    i.1 ≠ o.1 :=
  (List.nodup_append.mp (List.map_append ▸ beside.distinct)).2.2 _ (List.mem_map_of_mem mem) _
    (List.mem_map_of_mem mem')

/-- A child is not left with the parent's ends. -/
theorem spawned_drops (usual : Usual base) (seals : Seals plan s.inpipe s.outpipe)
    (beside : Beside base (s.inEnds plan ++ s.outEnds plan) s.procs.parent)
    {child : Descriptors (File StdPipe F)}
    (acted : actAll s.procs.parent (plan.actions s.inpipe s.outpipe) = some child) :
    ¬ child.Holds (.writes .input) ∧ ¬ child.Holds (.reads .output) := by
  constructor
  · apply actAll_drops acted
    rintro ⟨fd, here⟩
    have only : ∀ fd, s.procs.parent.lookup fd = some (.writes .input) →
        plan.input.isSome = true ∧ fd = s.inpipe.2 := by
      intro fd here
      rcases beside.mem_of_lookup here with mem | old
      · rcases mem_ends mem with ⟨feeds, ⟨-, same⟩ | ⟨at_, -⟩⟩ | ⟨-, ⟨-, same⟩ | ⟨-, same⟩⟩
        · cases same
        · exact ⟨feeds, at_⟩
        · cases same
        · cases same
      · exact absurd old (usual.unwritten fd .input)
    have feeds := (only fd here).1
    refine ⟨fun fd here => (only fd here).2, fun a mem copied => ?_, seals.input feeds⟩
    rcases seals.copies a mem _ copied with ⟨-, same⟩ | ⟨drains, same⟩
    · exact inEnds_ne beside feeds same.symm
    · refine ends_ne beside (i := (s.inpipe.2, .writes .input))
        (o := (s.outpipe.2, .writes .output)) ?_ ?_ same
      · simp [inEnds, feeds]
      · simp [outEnds, drains]
  · apply actAll_drops acted
    rintro ⟨fd, here⟩
    have only : ∀ fd, s.procs.parent.lookup fd = some (.reads .output) →
        plan.outLen.isSome = true ∧ fd = s.outpipe.1 := by
      intro fd here
      rcases beside.mem_of_lookup here with mem | old
      · rcases mem_ends mem with ⟨-, ⟨-, same⟩ | ⟨-, same⟩⟩ | ⟨drains, ⟨at_, -⟩ | ⟨-, same⟩⟩
        · cases same
        · cases same
        · exact ⟨drains, at_⟩
        · cases same
      · exact absurd old (usual.unread fd .output)
    have drains := (only fd here).1
    refine ⟨fun fd here => (only fd here).2, fun a mem copied => ?_, seals.output drains⟩
    rcases seals.copies a mem _ copied with ⟨feeds, same⟩ | ⟨-, same⟩
    · refine ends_ne beside (i := (s.inpipe.1, .reads .input))
        (o := (s.outpipe.1, .reads .output)) ?_ ?_ same.symm
      · simp [inEnds, feeds]
      · simp [outEnds, drains]
    · exact outEnds_ne beside drains same

/-! ## Every run -/

/-- What the child was given: the input, or a beginning of it where a `write` failed. -/
def Fed (plan : Plumbing) (s : Command F) : Prop :=
  (s.procs.pipes .input).written <+: plan.text ∧
    (s.starved = false → (s.procs.pipes .input).written = plan.text)

/-- What was read, unless a `read` failed. -/
def Drained (plan : Plumbing) (s : Command F) : Prop :=
  s.cut = false → s.got = s.printed.take (plan.outLen.getD 0 - 1)

/-- In front of the child. -/
structure Unborn (s : Command F) : Prop where
  child : s.procs.child = none
  ended : s.ended = none
  pipes : s.procs.pipes = fun _ => .empty
  starved : s.starved = false
  cut : s.cut = false
  reaped : s.reaped = false

/-- The child runs or has ended. -/
structure Begun (s : Command F) : Prop where
  child : s.procs.child = none ↔ s.ended ≠ none
  reaped : s.reaped = false

/-- So much has been fed. -/
structure Feeding (plan : Plumbing) (off : Nat) (s : Command F) : Prop where
  begun : s.Begun
  starved : s.starved = false
  cut : s.cut = false
  fed : (s.procs.pipes .input).written = plan.text.take off
  silent : s.got = []

structure Draining (plan : Plumbing) (s : Command F) : Prop where
  begun : s.Begun
  fed : s.Fed plan
  cut : s.cut = false
  bounded : s.got.length ≤ plan.outLen.getD 0 - 1

/-- How far the function is. -/
inductive Phase (plan : Plumbing) (s : Command F) : Prop
  | before (pc : s.pc = .pipingIn ∨ s.pc = .pipingOut ∨ s.pc = .spawning) (unborn : s.Unborn)
  | failed (pc : s.pc = .returned (-1)) (unborn : s.Unborn)
  | releasing (pc : s.pc = .releasing) (feeding : s.Feeding plan 0)
  | feeding {off : Nat} (pc : s.pc = .feeding off) (feeding : s.Feeding plan off)
  | draining (pc : s.pc = .draining) (draining : s.Draining plan)
  | waiting (pc : s.pc = .waiting) (begun : s.Begun) (fed : s.Fed plan) (drained : s.Drained plan)
  | unreaped (pc : s.pc = .returned plan.unreaped) (begun : s.Begun) (fed : s.Fed plan)
      (drained : s.Drained plan)
  | reaped {ended : Ended} (pc : s.pc = .returned (if ended = .exited 0 then 0 else -1))
      (over_ : s.procs.child = none ∧ s.ended = some ended ∧ s.reaped = true) (fed : s.Fed plan)
      (drained : s.Drained plan)

structure Sound (plan : Plumbing) (base : Descriptors (File StdPipe F)) (s : Command F) :
    Prop where
  planned : plan.Pipes s.pc
  parented : Parented plan base s
  drops : ∀ t, s.procs.child = some t → ¬ t.Holds (.writes .input) ∧ ¬ t.Holds (.reads .output)
  phase : s.Phase plan

theorem Parented.unread (parented : Parented plan base s) (usual : Usual base)
    (closed : s.ends plan = []) (p : StdPipe) : ¬ s.procs.parent.Holds (.reads p) := by
  rintro ⟨fd, here⟩
  rw [Parented, closed] at parented
  rcases parented.mem_of_lookup here with mem | old
  · cases mem
  · exact usual.unread fd p old

/-- What a child does to its pipes. -/
theorem child_pipes {t : Descriptors (File StdPipe F)} {procs : Procs StdPipe F UInt8}
    (drops : ¬ t.Holds (.writes .input) ∧ ¬ t.Holds (.reads .output))
    (moves : s.procs.ChildMoves capacity t procs) :
    (procs.pipes .input).written = (s.procs.pipes .input).written ∧
      (procs.pipes .output).taken = (s.procs.pipes .output).taken ∧
      (¬ s.procs.Open (.reads .output) → procs.pipes .output = s.procs.pipes .output) := by
  cases moves with
  | @took fd p k reads can =>
      cases p with
      | input => simp [Procs.take]
      | output => exact absurd ⟨fd, reads⟩ drops.2
  | @wrote fd p data writes can =>
      cases p with
      | input => exact absurd ⟨fd, writes⟩ drops.1
      | output =>
          refine ⟨by simp [Procs.put], by simp [Procs.put, Stream.put], fun unread => ?_⟩
          exact absurd can.2.2 unread
  | closed fd => exact ⟨rfl, rfl, fun _ => rfl⟩

theorem Phase.unborn (phase : s.Phase plan)
    (pc : s.pc = .pipingIn ∨ s.pc = .pipingOut ∨ s.pc = .spawning) : s.Unborn := by
  cases phase with
  | before here unborn => exact unborn
  | failed here unborn => exact unborn
  | releasing here feeding => rw [here] at pc; simp at pc
  | feeding here feeding => rw [here] at pc; simp at pc
  | draining here draining => rw [here] at pc; simp at pc
  | waiting here begun fed drained => rw [here] at pc; simp at pc
  | unreaped here begun fed drained => rw [here] at pc; simp at pc
  | reaped here over_ fed drained => rw [here] at pc; simp at pc

theorem Phase.of_releasing (phase : s.Phase plan) (pc : s.pc = .releasing) :
    s.Feeding plan 0 := by
  cases phase with
  | releasing here feeding => exact feeding
  | before here unborn => rw [pc] at here; simp at here
  | _ here => rw [pc] at here; cases here

theorem Phase.of_feeding {off : Nat} (phase : s.Phase plan) (pc : s.pc = .feeding off) :
    s.Feeding plan off := by
  cases phase with
  | feeding here feeding =>
      rw [pc] at here
      cases here
      exact feeding
  | before here unborn => rw [pc] at here; simp at here
  | _ here => rw [pc] at here; cases here

theorem Phase.of_draining (phase : s.Phase plan) (pc : s.pc = .draining) :
    s.Draining plan := by
  cases phase with
  | draining here draining => exact draining
  | before here unborn => rw [pc] at here; simp at here
  | _ here => rw [pc] at here; cases here

theorem Phase.of_waiting (phase : s.Phase plan) (pc : s.pc = .waiting) :
    s.Begun ∧ s.Fed plan ∧ s.Drained plan := by
  cases phase with
  | waiting here begun fed drained => exact ⟨begun, fed, drained⟩
  | before here unborn => rw [pc] at here; simp at here
  | _ here => rw [pc] at here; cases here

/-- The way into `drainPc`. -/
theorem phase_drainPc (pc : next.pc = plan.drainPc) (begun : next.Begun) (fed : next.Fed plan)
    (cut : next.cut = false) (silent : next.got = []) : next.Phase plan := by
  rw [Plumbing.drainPc] at pc
  split_ifs at pc with drains
  · refine .draining pc ⟨begun, fed, cut, ?_⟩
    rw [silent]
    exact Nat.zero_le _
  · refine .waiting pc begun fed fun _ => ?_
    rw [Option.not_isSome_iff_eq_none.mp drains, silent]
    rfl

/-- Behind the loop that reads. -/
theorem Draining.drained (draining : s.Draining plan)
    (done : ¬ plan.HasRoom s.got.length ∨ s.procs.queue .output = []) : s.Drained plan := by
  intro _
  have printed : s.printed = s.got ++ s.procs.queue .output := rfl
  rcases done with full | empty
  · have bounded := draining.bounded
    rw [Plumbing.HasRoom] at full
    have same : plan.outLen.getD 0 - 1 = s.got.length := by omega
    rw [printed, same, List.take_left]
  · rw [printed, empty, List.append_nil, List.take_of_length_le draining.bounded]

/-- Behind the input pipe. -/
theorem Feeding.onward {off : Nat} (feeding : s.Feeding plan off)
    (done : plan.text.length ≤ off) : s.Fed plan := by
  have whole : (s.procs.pipes .input).written = plan.text := by
    rw [feeding.fed, List.take_of_length_le done]
  exact ⟨whole ▸ List.prefix_rfl, fun _ => whole⟩

theorem Feeding.fed_of_none (feeding : s.Feeding plan 0) (none_ : plan.input = none) :
    s.Fed plan := by
  apply feeding.onward
  rw [Plumbing.text, none_]
  exact Nat.le_refl 0

/-- What happens beside the parent. -/
theorem Phase.aside (phase : s.Phase plan) (alive : ∃ t, s.procs.child = some t)
    (pc : next.pc = s.pc) (starved : next.starved = s.starved) (cut : next.cut = s.cut)
    (begun : s.Begun → next.Begun)
    (fed : (next.procs.pipes .input).written = (s.procs.pipes .input).written)
    (got : (next.procs.pipes .output).taken = (s.procs.pipes .output).taken)
    (printed : s.ends plan = [] → next.procs.pipes .output = s.procs.pipes .output) :
    next.Phase plan := by
  obtain ⟨t, alive⟩ := alive
  have fed_ : s.Fed plan → next.Fed plan := by
    rw [Fed, Fed, fed, starved]
    exact id
  have drained_ (closed : s.ends plan = []) : s.Drained plan → next.Drained plan := by
    rw [Drained, Drained, Command.got, Command.got, Command.printed, Command.printed,
      printed closed, cut]
    exact id
  have feeding_ {off : Nat} (feeding : s.Feeding plan off) : next.Feeding plan off :=
    ⟨begun feeding.begun, starved.trans feeding.starved, cut.trans feeding.cut,
      fed.trans feeding.fed, got.trans feeding.silent⟩
  cases phase with
  | before here unborn => exact absurd (alive.symm.trans unborn.child) (Option.some_ne_none t)
  | failed here unborn => exact absurd (alive.symm.trans unborn.child) (Option.some_ne_none t)
  | releasing here feeding => exact .releasing (pc.trans here) (feeding_ feeding)
  | feeding here feeding => exact .feeding (pc.trans here) (feeding_ feeding)
  | draining here draining =>
      refine .draining (pc.trans here) ⟨begun draining.begun, fed_ draining.fed,
        cut.trans draining.cut, ?_⟩
      rw [Command.got, got]
      exact draining.bounded
  | waiting here old given drained =>
      have closed : s.ends plan = [] := by rw [ends, here]
      exact .waiting (pc.trans here) (begun old) (fed_ given) (drained_ closed drained)
  | unreaped here old given drained =>
      have closed : s.ends plan = [] := by rw [ends, here]
      exact .unreaped (pc.trans here) (begun old) (fed_ given) (drained_ closed drained)
  | reaped here over_ given drained =>
      exact absurd (alive.symm.trans over_.1) (Option.some_ne_none t)

/-- Nothing happens beside the parent where it closes what it has and returns. -/
theorem Unborn.leaves (unborn : s.Unborn) (gone : List (Nat × File StdPipe F))
    (pc : CommandPc) : ((s.close gone).goto pc).Unborn :=
  ⟨unborn.child, unborn.ended, unborn.pipes, unborn.starved, unborn.cut, unborn.reaped⟩

/-- Every step leads on. -/
theorem phase_kept (moves : s.Moves plan capacity next) (usual : Usual base)
    (sound : Sound plan base s) : next.Phase plan := by
  have phase := sound.phase
  cases moves with
  | unpipedIn pc =>
      exact .failed rfl ((phase.unborn (.inl pc)).leaves [] _)
  | pipedIn pc free =>
      obtain ⟨child, ended, pipes, starved, cut, reaped⟩ := phase.unborn (.inl pc)
      refine .before ?_ ⟨child, ended, pipes, starved, cut, reaped⟩
      cases drains : plan.outLen with
      | none => simp
      | some n => simp
  | unpipedOut pc =>
      exact .failed rfl ((phase.unborn (.inr (.inl pc))).leaves _ _)
  | pipedOut pc free =>
      obtain ⟨child, ended, pipes, starved, cut, reaped⟩ := phase.unborn (.inr (.inl pc))
      exact .before (.inr (.inr rfl)) ⟨child, ended, pipes, starved, cut, reaped⟩
  | spawned pc acted =>
      obtain ⟨-, ended, pipes, starved, cut, reaped⟩ := phase.unborn (.inr (.inr pc))
      refine .releasing rfl ⟨⟨?_, reaped⟩, starved, cut, ?_, ?_⟩
      · exact iff_of_false (Option.some_ne_none _) (not_not.mpr ended)
      · change (s.procs.pipes .input).written = _
        rw [pipes]
        rfl
      · change (s.procs.pipes .output).taken = _
        rw [pipes]
        rfl
  | unspawned pc =>
      exact .failed rfl ((phase.unborn (.inr (.inr pc))).leaves _ _)
  | released pc =>
      obtain ⟨⟨child, reaped⟩, starved, cut, fed, silent⟩ := phase.of_releasing pc
      cases feeds : plan.input with
      | none =>
          have whole := (phase.of_releasing pc).fed_of_none feeds
          have pc' : plan.feedPc = plan.drainPc := by simp [Plumbing.feedPc, feeds]
          exact phase_drainPc pc' ⟨child, reaped⟩ whole cut silent
      | some input =>
          have pc' : plan.feedPc = .feeding 0 := by simp [Plumbing.feedPc, feeds]
          exact .feeding pc' ⟨⟨child, reaped⟩, starved, cut, fed, silent⟩
  | @wrote off k pc inside =>
      obtain ⟨⟨child, reaped⟩, starved, cut, fed, silent⟩ := phase.of_feeding pc
      refine .feeding rfl ⟨⟨child, reaped⟩, starved, cut, ?_, ?_⟩
      · simp only [Procs.put, Function.update_self, Stream.written_put, fed]
        rw [← List.take_append_drop off (plan.text.take (off + k)), List.take_take,
          List.drop_take, Nat.min_eq_left (Nat.le_add_right off k), Nat.add_sub_cancel_left]
      · simpa [got, Procs.put] using silent
  | @writeFailed off pc =>
      obtain ⟨⟨child, reaped⟩, starved, cut, fed, silent⟩ := phase.of_feeding pc
      refine phase_drainPc rfl ⟨child, reaped⟩ ⟨?_, fun other => ?_⟩ cut silent
      · exact fed ▸ List.take_prefix off plan.text
      · cases other
  | @fed off pc all =>
      have whole := (phase.of_feeding pc).onward all
      obtain ⟨⟨child, reaped⟩, starved, cut, fed, silent⟩ := phase.of_feeding pc
      exact phase_drainPc rfl ⟨child, reaped⟩ whole cut silent
  | @read k pc room can =>
      obtain ⟨⟨child, reaped⟩, fed, cut, bounded⟩ := phase.of_draining pc
      refine .draining pc ⟨⟨child, reaped⟩, ?_, cut, ?_⟩
      · simpa [Fed, Procs.take] using fed
      · have taken : ((s.procs.queue .output).take k).length ≤ k := List.length_take_le _ _
        simp only [got, Procs.take, Function.update_self, Stream.take, List.length_append]
        rw [got] at room
        rw [Procs.queue] at taken
        omega
  | readEnd pc room ended =>
      have drained := (phase.of_draining pc).drained (.inr ended.1)
      obtain ⟨⟨child, reaped⟩, fed, cut, bounded⟩ := phase.of_draining pc
      exact .waiting rfl ⟨child, reaped⟩ fed drained
  | readFailed pc =>
      obtain ⟨⟨child, reaped⟩, fed, cut, bounded⟩ := phase.of_draining pc
      exact .waiting rfl ⟨child, reaped⟩ fed fun other => absurd other.symm Bool.false_ne_true
  | filled pc full =>
      have drained := (phase.of_draining pc).drained (.inl full)
      obtain ⟨⟨child, reaped⟩, fed, cut, bounded⟩ := phase.of_draining pc
      exact .waiting rfl ⟨child, reaped⟩ fed drained
  | waited pc over_ =>
      obtain ⟨⟨child, reaped⟩, fed, drained⟩ := phase.of_waiting pc
      have gone := child.mpr (over_ ▸ Option.some_ne_none _)
      exact .reaped rfl ⟨gone, over_, rfl⟩ fed drained
  | waitFailed pc =>
      obtain ⟨⟨child, reaped⟩, fed, drained⟩ := phase.of_waiting pc
      exact .unreaped rfl ⟨child, reaped⟩ fed drained
  | @child t procs alive moves =>
      obtain ⟨fed, got, printed⟩ := child_pipes (sound.drops t alive) moves
      have still : procs.child ≠ none := by
        cases moves with
        | took reads can => exact fun none_ => Option.some_ne_none t (alive.symm.trans none_)
        | wrote writes can => exact fun none_ => Option.some_ne_none t (alive.symm.trans none_)
        | closed fd => exact Option.some_ne_none _
      refine phase.aside ⟨t, alive⟩ rfl rfl rfl ?_ fed got ?_
      · rintro ⟨child, reaped⟩
        have running : s.ended = none :=
          not_not.mp fun over_ => Option.some_ne_none t (alive.symm.trans (child.mpr over_))
        exact ⟨iff_of_false still (not_not.mpr running), reaped⟩
      · intro closed
        apply printed
        rintro (parent | ⟨t', alive', child⟩)
        · exact sound.parented.unread usual closed .output parent
        · exact (sound.drops t' alive').2 child
  | childExits alive ended =>
      refine phase.aside ⟨_, alive⟩ rfl rfl rfl ?_ rfl rfl fun _ => rfl
      exact fun begun => ⟨iff_of_true rfl (Option.some_ne_none ended), begun.reaped⟩

theorem drops_kept (moves : s.Moves plan capacity next) (usual : Usual base)
    (command : IsCommand plan) (sound : Sound plan base s) :
    ∀ t, next.procs.child = some t →
      ¬ t.Holds (.writes .input) ∧ ¬ t.Holds (.reads .output) := by
  cases moves with
  | spawned pc acted =>
      intro t alive
      cases alive
      have beside := sound.parented
      rw [Parented, ends, pc] at beside
      exact spawned_drops usual (seals command _ _) beside acted
  | @child t procs alive moves =>
      have old := sound.drops t alive
      cases moves with
      | took reads can => exact sound.drops
      | wrote writes can => exact sound.drops
      | closed fd =>
          intro t' alive'
          cases alive'
          exact ⟨fun holds => old.1 holds.of_erase, fun holds => old.2 holds.of_erase⟩
  | childExits alive ended =>
      intro t alive'
      cases alive'
  | _ => exact sound.drops

theorem Sound.kept (command : IsCommand plan) (usual : Usual base) (sound : Sound plan base s)
    (moves : s.Moves plan capacity next) : Sound plan base next :=
  ⟨planned_kept moves sound.planned, parented_kept moves sound.planned sound.parented,
    drops_kept moves usual command sound, phase_kept moves usual sound⟩

theorem Sound.start (plan : Plumbing) (base : Descriptors (File StdPipe F)) :
    Sound plan base (.start plan base) := by
  have unborn : (Command.start plan base).Unborn := ⟨rfl, rfl, rfl, rfl, rfl, rfl⟩
  have first : (Command.start plan base).ends plan = [] ∧ plan.Pipes plan.firstPc ∧
      (Command.start plan base).Phase plan := by
    rcases plan.firstPc_cases with
      ⟨-, pc⟩ | ⟨feeds, pc⟩ | ⟨unfed, drains, pc⟩ | ⟨unfed, undrained, pc⟩
    · exact ⟨by simp [Command.start, ends, pc], by simp [pc, Plumbing.Pipes], .failed pc unborn⟩
    · exact ⟨by simp [Command.start, ends, pc], by simp [pc, Plumbing.Pipes, feeds],
        .before (.inl pc) unborn⟩
    · exact ⟨by simp [Command.start, ends, pc, inEnds, unfed],
        by simp [pc, Plumbing.Pipes, drains], .before (.inr (.inl pc)) unborn⟩
    · exact ⟨by simp [Command.start, ends, pc, inEnds, outEnds, unfed, undrained],
        by simp [pc, Plumbing.Pipes], .before (.inr (.inr pc)) unborn⟩
  obtain ⟨closed, planned, phase⟩ := first
  refine ⟨planned, ?_, fun t alive => ?_, phase⟩
  · rw [Parented, closed]
    exact Beside.nil base
  · cases alive

variable [DecidableEq F]

theorem Sound.run (command : IsCommand plan) (usual : Usual base) {labels : List CommandLabel}
    (ran : run (step plan capacity) (Command.start plan base) labels = some s) :
    Sound plan base s :=
  run_invariant (fun _ _ _ sound stepped => sound.kept command usual (step_moves stepped))
    (.start plan base) ran

/-! ## What a call returns -/

omit [DecidableEq F] in
theorem Drained.captured (drained : s.Drained plan) (whole : s.cut = false) :
    s.out = captured s.printed (plan.outLen.getD 0) := by
  rw [out, drained whole, Net.captured]

/-- A function that returns has closed what it opened; it has started no child and returns -1, or
it has given the child its input, has read the child's output up to the length of its array, and
returns what `waitpid` says of the child. -/
theorem command_returns (command : IsCommand plan) (usual : Usual base)
    {labels : List CommandLabel}
    (ran : Transition.run (step plan capacity) (.start plan base) labels = some s) {rc : Int}
    (returned : s.pc = .returned rc) :
    (∀ fd, s.procs.parent.lookup fd = base.lookup fd) ∧
      (s.Unborn ∧ rc = -1 ∨
        (s.Fed plan ∧ (s.cut = false → s.out = captured s.printed (plan.outLen.getD 0))) ∧
          (s.reaped = true ∧ s.procs.child = none ∧
              (∃ ended, s.ended = some ended ∧ rc = if ended = .exited 0 then 0 else -1) ∨
            s.reaped = false ∧ rc = plan.unreaped)) := by
  have sound : Sound plan base s := .run command usual ran
  have beside := sound.parented
  rw [Parented, ends, returned] at beside
  refine ⟨fun fd => beside.other fd List.not_mem_nil, ?_⟩
  cases sound.phase with
  | failed pc unborn =>
      rw [returned] at pc
      cases pc
      exact .inl ⟨unborn, rfl⟩
  | unreaped pc begun fed drained =>
      rw [returned] at pc
      cases pc
      exact .inr ⟨⟨fed, drained.captured⟩, .inr ⟨begun.reaped, rfl⟩⟩
  | reaped pc over_ fed drained =>
      rw [returned] at pc
      cases pc
      exact .inr ⟨⟨fed, drained.captured⟩, .inl ⟨over_.2.2, over_.1, _, over_.2.1, rfl⟩⟩
  | before pc unborn => rw [returned] at pc; simp at pc
  | _ pc => rw [returned] at pc; cases pc

/-! ## A run -/

/-- A process that has the standard numbers. -/
def standardNumbers : Descriptors (File StdPipe Unit) :=
  AList.insert 0 (.other ()) (AList.insert 1 (.other ()) (AList.insert 2 (.other ()) ∅))

theorem standardNumbers_usual : Usual standardNumbers := by
  have unread : ∀ p, ¬ standardNumbers.Holds (.reads p) := by
    intro p
    cases p with
    | input => decide
    | output => decide
  have unwritten : ∀ p, ¬ standardNumbers.Holds (.writes p) := by
    intro p
    cases p with
    | input => decide
    | output => decide
  exact ⟨by decide, by decide, by decide, fun fd p here => unread p ⟨fd, here⟩,
    fun fd p here => unwritten p ⟨fd, here⟩⟩

/-- The child reads its input, prints and exits. -/
def shownKey : List CommandLabel :=
  [.piped (some (3, 4)), .piped (some (5, 6)), .spawned true, .released, .wrote 3,
    .child (.read 0 2), .wrote 4, .fed, .child (.read 0 5), .child (.write 1 (cstr "ab \n")),
    .read 4, .childExits (.exited 0), .readEnd, .waited]

theorem command_returns_shown :
    ∃ s, Transition.run (step (captureCmdStdin (cstr "show K\n") 16) 512)
        (.start (captureCmdStdin (cstr "show K\n") 16) standardNumbers) shownKey = some s ∧
      s.pc = .returned 0 ∧ (∀ fd, s.procs.parent.lookup fd = standardNumbers.lookup fd) ∧
      s.out = captured (cstr "ab \n") 16 := by
  obtain ⟨s, ran⟩ :
      ∃ s, Transition.run (step (captureCmdStdin (cstr "show K\n") 16) 512)
        (.start (captureCmdStdin (cstr "show K\n") 16) standardNumbers) shownKey = some s :=
    Option.isSome_iff_exists.mp (by decide +kernel)
  have observed :
      (Transition.run (step (captureCmdStdin (cstr "show K\n") 16) 512)
        (.start (captureCmdStdin (cstr "show K\n") 16) standardNumbers) shownKey).map
          (fun s => (s.pc, s.printed, s.cut, s.reaped)) =
        some (.returned 0, cstr "ab \n", false, true) := by
    decide +kernel
  rw [ran, Option.map_some, Option.some.injEq] at observed
  simp only [Prod.mk.injEq] at observed
  obtain ⟨pc, printed, whole, reaped⟩ := observed
  obtain ⟨closed, results⟩ :=
    command_returns (.captureCmdStdin _ 16) standardNumbers_usual ran pc
  refine ⟨s, ran, pc, closed, ?_⟩
  rcases results with ⟨unborn, -⟩ | ⟨⟨-, out⟩, -⟩
  · rw [unborn.reaped] at reaped
    cases reaped
  · rw [out whole, printed]
    rfl

end Command

end WiredTethering.Net.Commands
