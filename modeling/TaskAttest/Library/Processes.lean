import Mathlib.Data.Finset.Card
import Mathlib.Logic.Function.Basic

/-! The processes of a host, seen from one that has started a child: process groups, deadly
signals, and pipes whose write ends a process leaves to those it starts. -/

set_option autoImplicit false

namespace Processes

variable {Status Channel : Type}

/-- A process runs, has a deadly signal pending, or has ended and is kept for its parent. -/
inductive Life (Status : Type) where
  | running
  | dying
  | ended (status : Status)

/-- Loyal is who descends from the child when neither it nor anyone in between has changed
its group or its rights. This is history, no process sees it. -/
structure Process (Status Channel : Type) where
  group : Nat
  life : Life Status
  handlesTerm : Bool
  permitted : Bool
  loyal : Bool
  holds : Channel → Bool

inductive Signal where
  | term
  | kill

namespace Process

/-- The end of a process closes all that it holds. -/
def finish (process : Process Status Channel) (status : Status) : Process Status Channel :=
  { process with life := .ended status, holds := fun _ => false }

def receive (process : Process Status Channel) (signal : Signal) : Process Status Channel :=
  match process.life, signal with
  | .running, .kill => if process.permitted then { process with life := .dying } else process
  | .running, .term =>
      if process.permitted && !process.handlesTerm then { process with life := .dying }
      else process
  | _, _ => process

end Process

/-- What was written to a channel, and what of it is still to be read. -/
structure Host (Status Channel : Type) where
  pids : Finset Nat
  process : Nat → Process Status Channel
  buffer : Channel → List UInt8
  sent : Channel → List UInt8

/-- What a signal to a group comes to. -/
inductive Delivery where
  | delivered
  | noProcess
  | notPermitted

namespace Host

def Runs (host : Host Status Channel) (pid : Nat) : Prop :=
  pid ∈ host.pids ∧ (host.process pid).life = .running

def Ended (host : Host Status Channel) (pid : Nat) (status : Status) : Prop :=
  pid ∈ host.pids ∧ (host.process pid).life = .ended status

/-- A number is not given to a new process while a process or a group has it. -/
def Fresh (host : Host Status Channel) (pid : Nat) : Prop :=
  pid ∉ host.pids ∧ ∀ other ∈ host.pids, (host.process other).group ≠ pid

def set (host : Host Status Channel) (pid : Nat) (process : Process Status Channel) :
    Host Status Channel :=
  { host with process := Function.update host.process pid process }

/-- The parent has taken the status of a process that has ended. -/
def reap (host : Host Status Channel) (pid : Nat) : Host Status Channel :=
  { host with pids := host.pids.erase pid }

def members (host : Host Status Channel) (group : Nat) : Finset Nat :=
  host.pids.filter fun pid => (host.process pid).group = group

def holders (host : Host Status Channel) (channel : Channel) : Finset Nat :=
  host.pids.filter fun pid => (host.process pid).holds channel = true

def delivery (host : Host Status Channel) (group : Nat) : Delivery :=
  if host.members group = ∅ then .noProcess
  else if ∃ pid ∈ host.members group, (host.process pid).permitted = true then .delivered
  else .notPermitted

/-- A signal reaches those in the group that the sender may signal. -/
def signal (host : Host Status Channel) (group : Nat) (signal : Signal) : Host Status Channel :=
  { host with
    process := fun pid =>
      if (host.process pid).group = group then (host.process pid).receive signal
      else host.process pid }

variable [DecidableEq Channel]

def write (host : Host Status Channel) (channel : Channel) (bytes : List UInt8) :
    Host Status Channel :=
  { host with
    buffer := Function.update host.buffer channel (host.buffer channel ++ bytes)
    sent := Function.update host.sent channel (host.sent channel ++ bytes) }

/-- The reader has taken all but the rest. -/
def drain (host : Host Status Channel) (channel : Channel) (rest : List UInt8) :
    Host Status Channel :=
  { host with buffer := Function.update host.buffer channel rest }

end Host

/-- What the processes do, and others to them. A process with a deadly signal pending takes
no step but its end: a system call in flight counts as done before the signal. A signal to a
group comes to its members at once. The child is not reaped here, which only its parent does,
and neither is a later process of its number. -/
inductive Step [DecidableEq Channel] (child : Nat) :
    Host Status Channel → Host Status Channel → Prop where
  | fork {host : Host Status Channel} {parent pid : Nat} :
      host.Runs parent → host.Fresh pid →
      Step child host { host.set pid (host.process parent) with pids := insert pid host.pids }
  | exit {host : Host Status Channel} {pid : Nat} (status : Status) :
      host.Runs pid → Step child host (host.set pid ((host.process pid).finish status))
  | die {host : Host Status Channel} {pid : Nat} (status : Status) :
      pid ∈ host.pids → (host.process pid).life = .dying →
      Step child host (host.set pid ((host.process pid).finish status))
  | strike {host : Host Status Channel} {pid : Nat} :
      host.Runs pid → Step child host (host.set pid { host.process pid with life := .dying })
  | handle {host : Host Status Channel} {pid : Nat} (handlesTerm : Bool) :
      host.Runs pid → Step child host (host.set pid { host.process pid with handlesTerm })
  | move {host : Host Status Channel} {pid group : Nat} :
      host.Runs pid → (group = pid ∨ (host.members group).Nonempty) →
      Step child host (host.set pid { host.process pid with group, loyal := false })
  | rights {host : Host Status Channel} {pid : Nat} (permitted : Bool) :
      host.Runs pid →
      Step child host (host.set pid { host.process pid with permitted, loyal := false })
  | close {host : Host Status Channel} {pid : Nat} (channel : Channel) :
      host.Runs pid →
      Step child host (host.set pid { host.process pid with
        holds := Function.update (host.process pid).holds channel false })
  | pass {host : Host Status Channel} {pid other : Nat} {channel : Channel} :
      host.Runs pid → (host.process pid).holds channel = true → host.Runs other →
      Step child host (host.set other { host.process other with
        holds := Function.update (host.process other).holds channel true })
  | write {host : Host Status Channel} {pid : Nat} {channel : Channel} (bytes : List UInt8) :
      host.Runs pid → (host.process pid).holds channel = true →
      Step child host (host.write channel bytes)
  | reap {host : Host Status Channel} {pid : Nat} {status : Status} :
      host.Ended pid status → pid ≠ child → Step child host (host.reap pid)

@[simp] theorem Host.set_process_self (host : Host Status Channel) (pid : Nat)
    (process : Process Status Channel) : (host.set pid process).process pid = process := by
  simp [Host.set]

private theorem Host.set_process_other {host : Host Status Channel} {pid other : Nat}
    {process : Process Status Channel} (different : other ≠ pid) :
    (host.set pid process).process other = host.process other := by
  simp [Host.set, different]

/-! What becomes of a process -/

/-- Only a running process acts; a signal or its end may come to it. -/
structure Evolves (host : Host Status Channel) (before after : Process Status Channel) : Prop where
  still : before.life ≠ .running →
    after = before ∨ before.life = .dying ∧ ∃ status, after = before.finish status
  running : after.life = .running → before.life = .running
  loyal : after.loyal = true →
    before.loyal = true ∧ after.group = before.group ∧ after.permitted = before.permitted
  holds : ∀ channel, after.holds channel = true → before.holds channel = true ∨
    ∃ pid, host.Runs pid ∧ (host.process pid).holds channel = true
  closed : ∀ status, after.life = .ended status →
    after = before ∨ ∀ channel, after.holds channel = false

/-- Everyone is who it was, or the copy of a running process. -/
def Follows (before after : Host Status Channel) : Prop :=
  ∀ pid ∈ after.pids,
    pid ∈ before.pids ∧ Evolves before (before.process pid) (after.process pid) ∨
    pid ∉ before.pids ∧ ∃ parent, before.Runs parent ∧
      after.process pid = before.process parent

section Follows

variable {before after : Host Status Channel} {process : Process Status Channel} {child pid : Nat}

theorem Evolves.refl : Evolves before process process where
  still _ := .inl rfl
  running kept := kept
  loyal kept := ⟨kept, rfl, rfl⟩
  holds _ kept := .inl kept
  closed _ _ := .inl rfl

/-- A running process acts. -/
theorem Evolves.act {acted : Process Status Channel} (runs : process.life = .running)
    (loyal : acted.loyal = true →
      process.loyal = true ∧ acted.group = process.group ∧ acted.permitted = process.permitted)
    (holds : ∀ channel, acted.holds channel = true → process.holds channel = true ∨
      ∃ pid, before.Runs pid ∧ (before.process pid).holds channel = true)
    (closed : ∀ status, acted.life = .ended status → ∀ channel, acted.holds channel = false) :
    Evolves before process acted where
  still stopped := absurd runs stopped
  running _ := runs
  loyal := loyal
  holds := holds
  closed status ended := .inr (closed status ended)

theorem Evolves.receive (signal : Signal) : Evolves before process (process.receive signal) := by
  unfold Process.receive
  split
  · rename_i runs
    split
    · exact .act runs (fun loyal => ⟨loyal, rfl, rfl⟩) (fun _ held => .inl held) nofun
    · exact .refl
  · rename_i runs
    split
    · exact .act runs (fun loyal => ⟨loyal, rfl, rfl⟩) (fun _ held => .inl held) nofun
    · exact .refl
  · exact .refl

private theorem Follows.of_evolves (same : after.pids ⊆ before.pids)
    (evolves : ∀ pid ∈ after.pids, Evolves before (before.process pid) (after.process pid)) :
    Follows before after :=
  fun pid member => .inl ⟨same member, evolves pid member⟩

theorem Follows.refl : Follows before before :=
  .of_evolves (Finset.Subset.refl _) fun _ _ => .refl

theorem Follows.set {acted : Process Status Channel}
    (evolves : Evolves before (before.process pid) acted) :
    Follows before (before.set pid acted) := by
  refine .of_evolves (Finset.Subset.refl _) fun other _ => ?_
  by_cases same : other = pid
  · subst same
    rwa [Host.set_process_self]
  · rw [Host.set_process_other same]
    exact .refl

theorem Follows.signal (group : Nat) (signal : Signal) :
    Follows before (before.signal group signal) := by
  refine .of_evolves (Finset.Subset.refl _) fun pid _ => ?_
  show Evolves before _ (if _ then _ else _)
  split
  · exact .receive signal
  · exact .refl

theorem Follows.reap (pid : Nat) : Follows before (before.reap pid) :=
  .of_evolves (Finset.erase_subset ..) fun _ _ => .refl

variable [DecidableEq Channel]

theorem Follows.drain (channel : Channel) (rest : List UInt8) :
    Follows before (before.drain channel rest) :=
  .of_evolves (Finset.Subset.refl _) fun _ _ => .refl

theorem step_follows (step : Step child before after) : Follows before after := by
  cases step with
  | @fork parent fresh runs unused =>
      intro pid member
      rcases Finset.mem_insert.mp member with rfl | member
      · exact .inr ⟨unused.1, parent, runs, Host.set_process_self ..⟩
      · refine .inl ⟨member, ?_⟩
        have other : pid ≠ fresh := fun same => unused.1 (same ▸ member)
        rw [show _ = before.process pid from Host.set_process_other other]
        exact .refl
  | exit status runs =>
      exact .set (.act runs.2 (fun loyal => ⟨loyal, rfl, rfl⟩) nofun fun _ _ _ => rfl)
  | die status member dying =>
      refine .set ⟨fun _ => .inr ⟨dying, status, rfl⟩, nofun, fun loyal => ⟨loyal, rfl, rfl⟩,
        nofun, fun _ _ => .inr fun _ => rfl⟩
  | strike runs => exact .set (.act runs.2 (fun loyal => ⟨loyal, rfl, rfl⟩)
      (fun _ held => .inl held) nofun)
  | handle handles runs =>
      refine .set (.act runs.2 (fun loyal => ⟨loyal, rfl, rfl⟩) (fun _ held => .inl held) ?_)
      exact fun status ended => absurd (runs.2.symm.trans ended) nofun
  | move runs _ =>
      refine .set (.act runs.2 nofun (fun _ held => .inl held) ?_)
      exact fun status ended => absurd (runs.2.symm.trans ended) nofun
  | rights permitted runs =>
      refine .set (.act runs.2 nofun (fun _ held => .inl held) ?_)
      exact fun status ended => absurd (runs.2.symm.trans ended) nofun
  | close channel runs =>
      refine .set (.act runs.2 (fun loyal => ⟨loyal, rfl, rfl⟩) (fun other held => .inl ?_) ?_)
      · by_cases same : other = channel
        · subst same
          simp at held
        · simpa [same] using held
      · exact fun status ended => absurd (runs.2.symm.trans ended) nofun
  | @pass pid receiver channel runs holds receives =>
      refine .set (.act receives.2 (fun loyal => ⟨loyal, rfl, rfl⟩) (fun other held => ?_) ?_)
      · by_cases same : other = channel
        · subst same
          exact .inr ⟨pid, runs, holds⟩
        · exact .inl (by simpa [same] using held)
      · exact fun status ended => absurd (receives.2.symm.trans ended) nofun
  | write bytes runs holds => exact .of_evolves (Finset.Subset.refl _) fun _ _ => .refl
  | reap _ _ => exact .reap _

end Follows

/-! Who is loyal, and who can write -/

/-- The loyal are where the child was put, and who has ended holds nothing. -/
structure Host.Sound (host : Host Status Channel) (child : Nat) : Prop where
  loyal : ∀ pid ∈ host.pids, (host.process pid).loyal = true →
    (host.process pid).group = child ∧ (host.process pid).permitted = true
  closed : ∀ {pid : Nat} {status : Status}, host.Ended pid status →
    ∀ channel, (host.process pid).holds channel = false

/-- No loyal process runs. -/
def Host.Silenced (host : Host Status Channel) : Prop :=
  ∀ pid, host.Runs pid → (host.process pid).loyal = false

/-- Nobody who runs can write to the channel. -/
def Host.Sealed (host : Host Status Channel) (channel : Channel) : Prop :=
  ∀ pid, host.Runs pid → (host.process pid).holds channel = false

section Invariants

variable {before after host : Host Status Channel} {child pid : Nat} {channel : Channel}

@[simp] theorem Host.mem_holders :
    pid ∈ host.holders channel ↔ pid ∈ host.pids ∧ (host.process pid).holds channel = true :=
  Finset.mem_filter

@[simp] theorem Host.mem_members {group : Nat} :
    pid ∈ host.members group ↔ pid ∈ host.pids ∧ (host.process pid).group = group :=
  Finset.mem_filter

theorem Follows.runs (follows : Follows before after) (runs : after.Runs pid) :
    ∃ source, before.Runs source ∧ Evolves before (before.process source) (after.process pid) := by
  obtain ⟨member, running⟩ := runs
  rcases follows pid member with ⟨earlier, evolves⟩ | ⟨_, parent, parentRuns, copied⟩
  · exact ⟨pid, ⟨earlier, evolves.running running⟩, evolves⟩
  · rw [copied]
    exact ⟨parent, parentRuns, .refl⟩

theorem Follows.sound (follows : Follows before after) (sound : before.Sound child) :
    after.Sound child where
  loyal pid member loyal := by
    rcases follows pid member with ⟨earlier, evolves⟩ | ⟨_, parent, runs, copied⟩
    · obtain ⟨was, group, permitted⟩ := evolves.loyal loyal
      rw [group, permitted]
      exact sound.loyal pid earlier was
    · rw [copied] at loyal ⊢
      exact sound.loyal parent runs.1 loyal
  closed := by
    intro pid status ended channel
    obtain ⟨member, ended⟩ := ended
    rcases follows pid member with ⟨earlier, evolves⟩ | ⟨_, parent, runs, copied⟩
    · rcases evolves.closed status ended with same | closed
      · rw [same] at ended ⊢
        exact sound.closed ⟨earlier, ended⟩ channel
      · exact closed channel
    · rw [copied, runs.2] at ended
      exact nomatch ended

theorem Follows.silenced (follows : Follows before after) (silenced : before.Silenced) :
    after.Silenced := by
  intro pid runs
  obtain ⟨source, sourceRuns, evolves⟩ := follows.runs runs
  refine Bool.eq_false_iff.mpr fun loyal => ?_
  exact Bool.eq_false_iff.mp (silenced source sourceRuns) (evolves.loyal loyal).1

theorem Follows.sealed (follows : Follows before after) (sealing : before.Sealed channel) :
    after.Sealed channel := by
  intro pid runs
  obtain ⟨source, sourceRuns, evolves⟩ := follows.runs runs
  refine Bool.eq_false_iff.mpr fun held => ?_
  rcases evolves.holds channel held with held | ⟨other, otherRuns, held⟩
  · exact Bool.eq_false_iff.mp (sealing source sourceRuns) held
  · exact Bool.eq_false_iff.mp (sealing other otherRuns) held

/-- The write ends of a sealed channel get no new holder. -/
theorem Follows.holders_subset (follows : Follows before after) (sealing : before.Sealed channel) :
    after.holders channel ⊆ before.holders channel := by
  intro pid holder
  obtain ⟨member, held⟩ := Host.mem_holders.mp holder
  rcases follows pid member with ⟨earlier, evolves⟩ | ⟨_, parent, runs, copied⟩
  · rcases evolves.holds channel held with held | ⟨other, runs, held⟩
    · exact Host.mem_holders.mpr ⟨earlier, held⟩
    · exact absurd held (Bool.eq_false_iff.mp (sealing other runs))
  · rw [copied] at held
    exact absurd held (Bool.eq_false_iff.mp (sealing parent runs))

/-- Who has ended stays as it is until its parent takes its status. -/
theorem Follows.ended {status : Status} (follows : Follows before after)
    (ended : before.Ended pid status) (member : pid ∈ after.pids) : after.Ended pid status := by
  rcases follows pid member with ⟨_, evolves⟩ | ⟨missing, _⟩
  · rcases evolves.still (by rw [ended.2]; exact nofun) with same | ⟨dying, _⟩
    · exact ⟨member, same ▸ ended.2⟩
    · rw [ended.2] at dying
      exact nomatch dying
  · exact absurd ended.1 missing

theorem Host.sealed_of_holders (none : host.holders channel = ∅) : host.Sealed channel := by
  intro pid runs
  refine Bool.eq_false_iff.mpr fun held => ?_
  have holder := Host.mem_holders.mpr ⟨runs.1, held⟩
  rw [none] at holder
  exact Finset.notMem_empty _ holder

/-- When the loyal are silent, and nobody else can write, nobody can. -/
theorem Host.Silenced.sealed (silenced : host.Silenced)
    (loyal : ∀ pid ∈ host.holders channel, (host.process pid).loyal = true) :
    host.Sealed channel := by
  intro pid runs
  refine Bool.eq_false_iff.mpr fun held => ?_
  have isLoyal := loyal pid (Host.mem_holders.mpr ⟨runs.1, held⟩)
  rw [silenced pid runs] at isLoyal
  exact nomatch isLoyal

/-- A deadly signal to the group reaches every loyal process. -/
theorem Host.Sound.silenced (sound : host.Sound child) : (host.signal child .kill).Silenced := by
  intro pid runs
  obtain ⟨member, running⟩ := runs
  have same : (host.signal child .kill).process pid =
      if (host.process pid).group = child then (host.process pid).receive .kill
      else host.process pid := rfl
  rw [same] at running ⊢
  refine Bool.eq_false_iff.mpr fun loyal => ?_
  split at running
  · rename_i inside
    rw [if_pos inside] at loyal
    have evolves : Evolves host (host.process pid) ((host.process pid).receive .kill) :=
      .receive .kill
    have was := evolves.loyal loyal
    have permitted := (sound.loyal pid member was.1).2
    cases life : (host.process pid).life <;> simp [Process.receive, life, permitted] at running
  · rename_i outside
    rw [if_neg outside] at loyal
    exact outside (sound.loyal pid member loyal).1

/-- A signal that reaches nobody has no loyal process to reach. -/
theorem Host.Sound.silenced_of_undelivered (sound : host.Sound child)
    (undelivered : host.delivery child ≠ .delivered) : host.Silenced := by
  intro pid runs
  refine Bool.eq_false_iff.mpr fun loyal => undelivered ?_
  obtain ⟨group, permitted⟩ := sound.loyal pid runs.1 loyal
  have member := Host.mem_members.mpr ⟨runs.1, group⟩
  rw [Host.delivery, if_neg (Finset.ne_empty_of_mem member), if_pos ⟨pid, member, permitted⟩]

theorem holders_finish_subset (status : Status) :
    (before.set pid ((before.process pid).finish status)).holders channel ⊆
      before.holders channel := by
  intro other holder
  by_cases same : other = pid
  · subst same
    simp [Process.finish] at holder
  · rw [Host.mem_holders, Host.set_process_other same] at holder
    exact Host.mem_holders.mpr holder

/-- The death of a holder leaves one less. -/
theorem holders_finish_ssubset (status : Status) (holder : pid ∈ before.holders channel) :
    (before.set pid ((before.process pid).finish status)).holders channel ⊂
      before.holders channel := by
  refine Finset.ssubset_iff_subset_ne.mpr ⟨holders_finish_subset status, fun same => ?_⟩
  rw [← same] at holder
  simp [Process.finish] at holder

variable [DecidableEq Channel]

/-- Only its parent takes the child away. -/
theorem step_child (step : Step child before after) (present : child ∈ before.pids) :
    child ∈ after.pids := by
  cases step with
  | fork _ _ => exact Finset.mem_insert_of_mem present
  | reap _ different => exact Finset.mem_erase.mpr ⟨different.symm, present⟩
  | exit | die | strike | handle | move | rights | close | pass | write => exact present

/-- What is sent comes into the buffer, and nothing is sent to a sealed channel. -/
theorem step_sent (step : Step child before after) (channel : Channel) :
    ∃ bytes, after.buffer channel = before.buffer channel ++ bytes ∧
      after.sent channel = before.sent channel ++ bytes ∧ (before.Sealed channel → bytes = []) := by
  cases step with
  | @write pid target bytes runs holds =>
      by_cases same : channel = target
      · subst same
        refine ⟨bytes, by simp [Host.write], by simp [Host.write], fun sealing => ?_⟩
        rw [sealing pid runs] at holds
        exact nomatch holds
      · exact ⟨[], by simp [Host.write, same], by simp [Host.write, same], fun _ => rfl⟩
  | fork | exit | die | strike | handle | move | rights | close | pass | reap =>
      exact ⟨[], (List.append_nil _).symm, (List.append_nil _).symm, fun _ => rfl⟩

end Invariants

end Processes
