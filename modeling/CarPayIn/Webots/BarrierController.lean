import Mathlib.Data.List.Basic

/-! # The barrier controllers

An HTTP server puts commands into a queue. A loop takes them out once in each time
step of the simulation, moves the motor, and closes a gate that was left open. The
two threads share the queue and one flag.
-/

namespace CarPayIn.BarrierController

inductive Command where
  | openGate
  | closeGate
deriving DecidableEq, Repr

inductive Position where
  | posOpen
  | posClose
deriving DecidableEq, Repr

def openHoldMs : Nat := 8000

structure Gate where
  name : String
  httpPort : Nat
  /-- `getDevice` has found the motor. -/
  motor : Bool
  /-- Milliseconds. -/
  timestep : Nat
deriving DecidableEq, Repr

def entryGate (motor : Bool) (timestep : Nat) : Gate := ⟨"entry", 8100, motor, timestep⟩

def exitGate (motor : Bool) (timestep : Nat) : Gate := ⟨"exit", 8101, motor, timestep⟩

/-- Where the loop is: in `robot.step`, at a command, between the motor and the flag
of a command, or between the motor and the flag of a gate that closes by itself. -/
inductive Loop where
  | waiting
  | handling (cmds : List Command)
  | publishing (isOpen : Bool) (cmds : List Command)
  | closing
deriving DecidableEq, Repr

/-- The commands of the iteration that are still to come. -/
def Loop.pending : Loop → List Command
  | .handling cmds | .publishing _ cmds => cmds
  | .waiting | .closing => []

def Loop.next : Loop → Option Command
  | .handling cmds => cmds.head?
  | _ => none

structure State where
  cmdQueue : List Command
  isOpen : Bool
  openTimer : Int
  /-- The target last given to `setPosition`. -/
  position : Position
  loop : Loop
deriving DecidableEq, Repr

def State.initial : State := ⟨[], false, 0, .posClose, .waiting⟩

/-! ## The server -/

inductive Body where
  | accepted (gate : Option String)
  | status (gate : String) (port : Nat) (isOpen : Bool)
deriving DecidableEq, Repr

inductive Response where
  | ok (body : Body)
  | notFound
deriving DecidableEq, Repr

def commandAt (path : String) : Option Command :=
  if path = "/open" then some .openGate else if path = "/close" then some .closeGate else none

def Command.body (gate : String) : Command → Body
  | .openGate => .accepted (some gate)
  | .closeGate => .accepted none

def State.enqueue (s : State) (cmd : Command) : State := { s with cmdQueue := s.cmdQueue ++ [cmd] }

namespace Gate

variable (g : Gate)

def doPOST (path : String) (s : State) : Response × State :=
  match commandAt path with
  | some cmd => (.ok (cmd.body g.name), s.enqueue cmd)
  | none => (.notFound, s)

def doGET (path : String) (s : State) : Response :=
  if path = "/status" then .ok (.status g.name g.httpPort s.isOpen) else .notFound

/-! ## The loop -/

/-- One command, up to the lock around the flag. -/
def move (cmd : Command) (cmds : List Command) (s : State) : State :=
  if g.motor then
    match cmd with
    | .openGate =>
        { s with position := .posOpen, openTimer := openHoldMs, loop := .publishing true cmds }
    | .closeGate => { s with position := .posClose, openTimer := 0, loop := .publishing false cmds }
  else { s with loop := .handling cmds }

/-- What follows the commands. -/
def countDown (s : State) : State :=
  if s.openTimer > 0 then
    if s.openTimer - g.timestep ≤ 0 then
      { s with
        openTimer := s.openTimer - g.timestep
        position := if g.motor then .posClose else s.position
        loop := .closing }
    else { s with openTimer := s.openTimer - g.timestep, loop := .waiting }
  else { s with loop := .waiting }

def advance (s : State) : State :=
  match s.loop with
  | .waiting => { s with cmdQueue := [], loop := .handling s.cmdQueue }
  | .handling (cmd :: cmds) => g.move cmd cmds s
  | .handling [] => g.countDown s
  | .publishing isOpen cmds => { s with isOpen := isOpen, loop := .handling cmds }
  | .closing => { s with isOpen := false, loop := .waiting }

end Gate

/-! ## Runs -/

inductive Event where
  | post (path : String)
  | advance
deriving DecidableEq, Repr

/-- What the timer is set to. -/
def Command.timer : Command → Int
  | .openGate => openHoldMs
  | .closeGate => 0

/-- The commands that were accepted, those that were carried out, and those that each iteration
has taken, the newest iteration first. -/
structure Run where
  accepted : List Command
  handled : List Command
  taken : List (List Command)
  state : State
deriving DecidableEq, Repr

namespace Gate

variable (g : Gate)

def observe (r : Run) : Event → Run
  | .post path =>
      { r with
        accepted := r.accepted ++ (commandAt path).toList
        state := (g.doPOST path r.state).2 }
  | .advance =>
      { r with
        handled := r.handled ++ r.state.loop.next.toList
        taken := if r.state.loop = .waiting then r.state.cmdQueue :: r.taken else r.taken
        state := g.advance r.state }

def run (es : List Event) : Run := es.foldl g.observe ⟨[], [], [], .initial⟩

/-! ## The time that is left -/

/-- The timer after some commands. -/
def after (t : Int) (cmds : List Command) : Int :=
  if g.motor then cmds.getLast?.elim t Command.timer else t

/-- The timer after the iterations that have taken these commands. -/
def left : List (List Command) → Int
  | [] => 0
  | cmds :: earlier =>
      if g.after (left earlier) cmds > 0 then g.after (left earlier) cmds - g.timestep
      else g.after (left earlier) cmds

/-- The iterations without a command since the one whose last command was to open. -/
def sinceOpen : List (List Command) → Option Nat
  | [] => none
  | cmds :: earlier =>
      match cmds.getLast? with
      | some .openGate => some 0
      | some .closeGate => none
      | none => (sinceOpen earlier).map (· + 1)

variable {g}

theorem after_of_no_motor (hmotor : g.motor = false) (t : Int) (cmds : List Command) :
    g.after t cmds = t := by
  simp [after, hmotor]

theorem after_of_none {cmds : List Command} (hlast : cmds.getLast? = none) (t : Int) :
    g.after t cmds = t := by
  simp [after, hlast]

theorem after_of_some (hmotor : g.motor = true) {cmds : List Command} {cmd : Command}
    (hlast : cmds.getLast? = some cmd) (t : Int) : g.after t cmds = cmd.timer := by
  simp [after, hmotor, hlast]

theorem left_of_no_motor (hmotor : g.motor = false) (taken : List (List Command)) :
    g.left taken = 0 := by
  induction taken with
  | nil => rfl
  | cons cmds earlier ih =>
      simp only [left, after_of_no_motor hmotor, ih]
      rfl

/-- A gate that is not to be open has no time left. -/
theorem left_of_none {taken : List (List Command)} (hsince : sinceOpen taken = none) :
    g.left taken ≤ 0 := by
  induction taken with
  | nil => exact Int.le_refl 0
  | cons cmds earlier ih =>
      simp only [sinceOpen] at hsince
      simp only [left]
      cases hlast : cmds.getLast? with
      | none =>
          rw [hlast] at hsince
          have hleft := ih (Option.map_eq_none_iff.mp hsince)
          rw [after_of_none hlast]
          split <;> omega
      | some cmd =>
          rw [hlast] at hsince
          cases cmd with
          | openGate => cases hsince
          | closeGate =>
              cases hmotor : g.motor with
              | false =>
                  rw [after_of_no_motor hmotor, left_of_no_motor hmotor]
                  exact Int.le_refl 0
              | true =>
                  rw [after_of_some hmotor hlast]
                  exact Int.le_refl 0

theorem left_of_some (hmotor : g.motor = true) {taken : List (List Command)} {n : Nat}
    (hsince : sinceOpen taken = some n) :
    g.left taken = openHoldMs - (g.timestep * (n + 1) : Nat) ∨
      g.left taken ≤ 0 ∧ openHoldMs ≤ g.timestep * (n + 1) := by
  induction taken generalizing n with
  | nil => cases hsince
  | cons cmds earlier ih =>
      simp only [sinceOpen] at hsince
      simp only [left]
      cases hlast : cmds.getLast? with
      | none =>
          rw [hlast] at hsince
          obtain ⟨m, hm, rfl⟩ := Option.map_eq_some_iff.mp hsince
          have hnext : g.timestep * (m + 1 + 1) = g.timestep * (m + 1) + g.timestep :=
            Nat.mul_succ _ _
          have hleft := ih hm
          rw [after_of_none hlast, hnext]
          generalize g.timestep * (m + 1) = elapsed at hleft
          split <;> omega
      | some cmd =>
          rw [hlast] at hsince
          rw [after_of_some hmotor hlast]
          cases cmd with
          | closeGate => cases hsince
          | openGate =>
              cases hsince
              have hhold : Command.openGate.timer > 0 := by decide
              rw [if_pos hhold, Nat.zero_add, Nat.mul_one]
              exact .inl rfl

theorem left_pos_iff (taken : List (List Command)) :
    0 < g.left taken ↔ g.motor = true ∧
      ∃ n, sinceOpen taken = some n ∧ g.timestep * (n + 1) < openHoldMs := by
  constructor
  · intro hpos
    cases hmotor : g.motor with
    | false =>
        rw [left_of_no_motor hmotor] at hpos
        exact absurd hpos (by decide)
    | true =>
        cases hsince : sinceOpen taken with
        | none =>
            have hleft := left_of_none (g := g) hsince
            omega
        | some n =>
            refine ⟨rfl, n, rfl, ?_⟩
            have hleft := left_of_some hmotor hsince
            generalize g.timestep * (n + 1) = elapsed at hleft
            omega
  · rintro ⟨hmotor, n, hsince, hlt⟩
    have hleft := left_of_some hmotor hsince
    generalize g.timestep * (n + 1) = elapsed at hleft hlt
    omega

end Gate

/-! ## What the two threads keep -/

/-- No move of the motor is still to be published. -/
def Loop.settled : Loop → Bool
  | .waiting | .handling _ => true
  | .publishing _ _ | .closing => false

namespace Gate

/-- Of what an iteration has taken it is done with a first part, whose last command has set
the timer. -/
def Reached (g : Gate) (taken : List (List Command)) (cmds : List Command) (t : Int) : Prop :=
  ∃ done earlier, taken = (done ++ cmds) :: earlier ∧ t = g.after (g.left earlier) done

def Agrees (g : Gate) (taken : List (List Command)) (s : State) : Prop :=
  match s.loop with
  | .waiting => s.openTimer = g.left taken ∧ (s.isOpen = true ↔ s.position = .posOpen)
  | .handling cmds =>
      g.Reached taken cmds s.openTimer ∧ (s.isOpen = true ↔ s.position = .posOpen)
  | .publishing isOpen cmds =>
      g.Reached taken cmds s.openTimer ∧ (isOpen = true ↔ s.position = .posOpen)
  | .closing => s.openTimer = g.left taken ∧ s.position = .posClose

structure Kept (g : Gate) (r : Run) : Prop where
  order : r.handled ++ r.state.loop.pending ++ r.state.cmdQueue = r.accepted
  taken : r.taken.reverse.flatten = r.handled ++ r.state.loop.pending
  position : r.state.position = .posOpen ↔ 0 < r.state.openTimer
  agrees : g.Agrees r.taken r.state

variable {g : Gate} {r : Run}

theorem Kept.post (h : g.Kept r) (path : String) : g.Kept (g.observe r (.post path)) := by
  have horder := h.order
  simp only [observe, doPOST]
  cases commandAt path with
  | none => exact ⟨by simpa using horder, h.taken, h.position, h.agrees⟩
  | some cmd =>
      refine ⟨?_, h.taken, h.position, h.agrees⟩
      simp only [State.enqueue, Option.toList_some]
      rw [← List.append_assoc, horder]

theorem Reached.move {taken : List (List Command)} {cmd : Command} {cmds : List Command} {t : Int}
    (hmotor : g.motor = true) (h : g.Reached taken (cmd :: cmds) t) :
    g.Reached taken cmds cmd.timer := by
  obtain ⟨done, earlier, rfl, -⟩ := h
  refine ⟨done ++ [cmd], earlier, by simp, ?_⟩
  rw [after_of_some hmotor List.getLast?_concat]

theorem Reached.skip {taken : List (List Command)} {cmd : Command} {cmds : List Command} {t : Int}
    (hmotor : g.motor = false) (h : g.Reached taken (cmd :: cmds) t) : g.Reached taken cmds t := by
  obtain ⟨done, earlier, rfl, ht⟩ := h
  refine ⟨done ++ [cmd], earlier, by simp, ?_⟩
  rw [after_of_no_motor hmotor] at ht ⊢
  exact ht

/-- With the last command done, what is counted down is the timer of the iteration. -/
theorem Reached.left {taken : List (List Command)} {t : Int} (h : g.Reached taken [] t) :
    g.left taken = if t > 0 then t - g.timestep else t := by
  obtain ⟨done, earlier, rfl, rfl⟩ := h
  rw [List.append_nil]
  rfl

theorem Reached.no_motor {taken : List (List Command)} {cmds : List Command} {t : Int}
    (hmotor : g.motor = false) (h : g.Reached taken cmds t) : t = 0 := by
  obtain ⟨done, earlier, -, rfl⟩ := h
  rw [after_of_no_motor hmotor, left_of_no_motor hmotor]

theorem Kept.advance (h : g.Kept r) : g.Kept (g.observe r .advance) := by
  obtain ⟨horder, htaken, hposition, hagrees⟩ := h
  obtain ⟨accepted, handled, taken, s⟩ := r
  obtain ⟨cmdQueue, isOpen, openTimer, position, loop⟩ := s
  dsimp only [observe, Gate.advance, Agrees] at horder htaken hposition hagrees ⊢
  cases loop with
  | waiting =>
      obtain ⟨htimer, hflag⟩ := hagrees
      simp only [Loop.pending, List.append_nil] at horder htaken
      refine ⟨by simpa [Loop.next, Loop.pending] using horder, ?_, hposition,
        ⟨[], taken, rfl, ?_⟩, hflag⟩
      · simp [Loop.next, Loop.pending, htaken]
      · rw [after_of_none rfl]
        exact htimer
  | closing =>
      obtain ⟨htimer, hclosed⟩ := hagrees
      simp only [Loop.next, Option.toList_none, List.append_nil]
      exact ⟨horder, htaken, hposition, htimer, by simp [hclosed]⟩
  | publishing published cmds =>
      simp only [Loop.next, Option.toList_none, List.append_nil]
      exact ⟨horder, htaken, hposition, hagrees⟩
  | handling cmds =>
      obtain ⟨hreached, hflag⟩ := hagrees
      cases cmds with
      | cons cmd cmds =>
          have horder' : handled ++ [cmd] ++ cmds ++ cmdQueue = accepted := by
            rw [List.append_assoc handled]
            exact horder
          have htaken' : taken.reverse.flatten = handled ++ [cmd] ++ cmds := by
            rw [List.append_assoc]
            exact htaken
          dsimp only [move]
          cases hmotor : g.motor with
          | false => exact ⟨horder', htaken', hposition, hreached.skip hmotor, hflag⟩
          | true =>
              cases cmd with
              | openGate =>
                  exact ⟨horder', htaken', by simp [openHoldMs], hreached.move hmotor, by simp⟩
              | closeGate => exact ⟨horder', htaken', by simp, hreached.move hmotor, by simp⟩
      | nil =>
          have hleft := hreached.left
          simp only [Loop.next, List.head?_nil, Option.toList_none, List.append_nil]
          have hbusy : Loop.handling [] ≠ .waiting := nofun
          rw [if_neg hbusy]
          dsimp only [countDown]
          by_cases hrunning : openTimer > 0
          · -- Without a motor the timer never runs.
            have hmotor : g.motor = true := by
              by_contra hmotor
              have hzero := hreached.no_motor (by simpa using hmotor)
              omega
            rw [if_pos hrunning] at hleft ⊢
            by_cases hover : openTimer - g.timestep ≤ 0
            · rw [if_pos hover, if_pos hmotor]
              refine ⟨horder, htaken, ?_, hleft.symm, rfl⟩
              simp only [reduceCtorEq, false_iff]
              omega
            · rw [if_neg hover]
              refine ⟨horder, htaken, ?_, hleft.symm, hflag⟩
              rw [hposition]
              dsimp only
              omega
          · rw [if_neg hrunning] at hleft ⊢
            exact ⟨horder, htaken, hposition, hleft.symm, hflag⟩

theorem kept_run (g : Gate) (es : List Event) : g.Kept (g.run es) := by
  have hrun : ∀ r, g.Kept r → g.Kept (es.foldl g.observe r) := by
    induction es with
    | nil => exact fun r h => h
    | cons e es ih =>
        intro r h
        cases e with
        | post path => exact ih _ (h.post path)
        | advance => exact ih _ h.advance
  exact hrun _ ⟨rfl, rfl, by decide, rfl, by decide⟩

/-- The commands are carried out as they were accepted, none twice and none left out. Apart from the
moments between a new target of the motor and its flag, the status is that of the target; and between
two iterations the gate is open exactly while the latest iteration with a command has ended in one to
open and its time is not over. -/
theorem follows_commands (g : Gate) (es : List Event) :
    (g.run es).handled ++ (g.run es).state.loop.pending ++ (g.run es).state.cmdQueue =
      (g.run es).accepted ∧
    (g.run es).taken.reverse.flatten = (g.run es).handled ++ (g.run es).state.loop.pending ∧
    ((g.run es).state.loop.settled = true → g.doGET "/status" (g.run es).state =
      .ok (.status g.name g.httpPort (decide ((g.run es).state.position = .posOpen)))) ∧
    ((g.run es).state.loop = .waiting → ((g.run es).state.position = .posOpen ↔ g.motor = true ∧
      ∃ n, sinceOpen (g.run es).taken = some n ∧ g.timestep * (n + 1) < openHoldMs)) := by
  obtain ⟨horder, htaken, hposition, hagrees⟩ := kept_run g es
  refine ⟨horder, htaken, ?_, ?_⟩
  · intro hsettled
    have hflag : (g.run es).state.isOpen = true ↔ (g.run es).state.position = .posOpen := by
      cases hloop : (g.run es).state.loop with
      | waiting =>
          rw [Agrees, hloop] at hagrees
          exact hagrees.2
      | handling cmds =>
          rw [Agrees, hloop] at hagrees
          exact hagrees.2
      | publishing published cmds =>
          rw [hloop] at hsettled
          cases hsettled
      | closing =>
          rw [hloop] at hsettled
          cases hsettled
    have htold : (g.run es).state.isOpen = decide ((g.run es).state.position = .posOpen) := by
      rw [Bool.eq_iff_iff, hflag, decide_eq_true_iff]
    simp [doGET, htold]
  · intro hloop
    rw [Agrees, hloop] at hagrees
    rw [hposition, hagrees.1]
    exact left_pos_iff _

end Gate

/-- A gate that is opened and left alone closes in its eighth second. -/
example : let seconds n := List.replicate n [Event.advance, .advance] |>.flatten
    let arrival := [.post "/open", .advance, .advance, .advance, .advance]
    ((exitGate true 1000).run (arrival ++ seconds 6)).state.position = .posOpen ∧
    ((exitGate true 1000).run (arrival ++ seconds 7 ++ [.advance])).state =
      ⟨[], false, 0, .posClose, .waiting⟩ := by
  decide

end CarPayIn.BarrierController
