import Mathlib.Logic.Function.Basic

/-! # Requests and responses over a network that loses messages

A request is delivered at most once and answered at most once. It may be lost
on the way, and its caller may stop waiting at any time, whether or not an
answer is still to come. What the other side makes of the request and what the
caller knows of the answer are therefore two separate facts.
-/

namespace Process

/-- What has become of a request. -/
inductive Progress (Resp : Type) where
  | sent
  | dropped
  | delivered
  | answered (response : Resp)
deriving DecidableEq, Repr

/-- What its caller has seen of it. -/
inductive Receipt (Resp : Type) where
  | waiting
  | received (response : Resp)
  | abandoned
deriving DecidableEq, Repr

structure Exchange (Tid Req Resp : Type) where
  caller : Tid
  request : Req
  progress : Progress Resp
  receipt : Receipt Resp
deriving DecidableEq, Repr

inductive HttpOp (Req Resp : Type) : Type → Type where
  | send (request : Req) : HttpOp Req Resp Nat
  | receive (id : Nat) : HttpOp Req Resp Resp
  | respond (id : Nat) (response : Resp) : HttpOp Req Resp Unit

namespace Exchange

variable {Tid Req Resp ε β : Type}

/-- One call of a client or of a server. A receiver waits until there is an
answer or it has given up. -/
def exec (t : Tid) (timeout : ε) :
    HttpOp Req Resp β → List (Exchange Tid Req Resp) →
      Option (Except ε β × List (Exchange Tid Req Resp))
  | .send request, xs => some (.ok xs.length, xs ++ [⟨t, request, .sent, .waiting⟩])
  | .receive id, xs =>
      match xs[id]? with
      | none => none
      | some x =>
          match x.receipt, x.progress with
          | .abandoned, _ => some (.error timeout, xs)
          | .waiting, .answered r =>
              some (.ok r, xs.modify id fun x => { x with receipt := .received r })
          | _, _ => none
  | .respond id response, xs =>
      match xs[id]? with
      | none => none
      | some x =>
          match x.progress with
          | .delivered => some (.ok (), xs.modify id fun x => { x with progress := .answered response })
          | _ => none

/-- The request of an exchange that has just reached the server. -/
def deliver (id : Nat) (xs : List (Exchange Tid Req Resp)) :
    Option (Req × List (Exchange Tid Req Resp)) :=
  match xs[id]? with
  | none => none
  | some x =>
      match x.progress with
      | .sent => some (x.request, xs.modify id fun x => { x with progress := .delivered })
      | _ => none

def drop (id : Nat) (xs : List (Exchange Tid Req Resp)) : Option (List (Exchange Tid Req Resp)) :=
  match xs[id]? with
  | none => none
  | some x =>
      match x.progress with
      | .sent => some (xs.modify id fun x => { x with progress := .dropped })
      | _ => none

/-- The caller stops waiting: the connection broke or its timeout ran out. -/
def giveUp (id : Nat) (xs : List (Exchange Tid Req Resp)) : Option (List (Exchange Tid Req Resp)) :=
  match xs[id]? with
  | none => none
  | some x =>
      match x.receipt with
      | .waiting => some (xs.modify id fun x => { x with receipt := .abandoned })
      | _ => none

/-! ## How an exchange evolves -/

/-- A request that may still have an effect. -/
def Open (x : Exchange Tid Req Resp) : Prop := x.progress = .sent ∨ x.progress = .delivered

instance [DecidableEq Resp] (x : Exchange Tid Req Resp) : Decidable x.Open :=
  inferInstanceAs (Decidable (_ ∨ _))

/-- A request that has reached the other side. -/
def Started (x : Exchange Tid Req Resp) : Prop := x.progress ≠ .sent ∧ x.progress ≠ .dropped

/-- The same exchange at a later time: answers, receipts and starts are final. -/
structure Later (x x' : Exchange Tid Req Resp) : Prop where
  caller : x'.caller = x.caller
  request : x'.request = x.request
  answered : ∀ r, x.progress = .answered r → x'.progress = .answered r
  started : x.Started → x'.Started
  closed : ¬x.Open → x'.progress = x.progress
  receipt : x.receipt ≠ .waiting → x'.receipt = x.receipt

variable {x : Exchange Tid Req Resp}

theorem Later.refl (x : Exchange Tid Req Resp) : x.Later x :=
  ⟨rfl, rfl, fun _ h => h, id, fun _ => rfl, fun _ => rfl⟩

theorem Later.of_receipt (h : x.receipt = .waiting) (receipt : Receipt Resp) :
    x.Later { x with receipt := receipt } :=
  ⟨rfl, rfl, fun _ h => h, id, fun _ => rfl, fun hn => (hn h).elim⟩

theorem Later.of_sent (h : x.progress = .sent) (progress : Progress Resp) :
    x.Later { x with progress := progress } :=
  ⟨rfl, rfl, fun r hr => by simp [h] at hr, fun hs => (hs.1 h).elim,
    fun hn => (hn (.inl h)).elim, fun _ => rfl⟩

theorem Later.of_delivered (h : x.progress = .delivered) (r : Resp) :
    x.Later { x with progress := .answered r } :=
  ⟨rfl, rfl, fun r hr => by simp [h] at hr, fun _ => by simp [Started],
    fun hn => (hn (.inr h)).elim, fun _ => rfl⟩

theorem started_of_delivered (h : x.progress = .delivered) : x.Started := by
  simp [Started, h]

/-! ## Exchanges by number -/

def table (xs : List (Exchange Tid Req Resp)) : Nat → Option (Exchange Tid Req Resp) :=
  fun id => xs[id]?

theorem table_append (xs : List (Exchange Tid Req Resp)) (x : Exchange Tid Req Resp) :
    table (xs ++ [x]) = Function.update (table xs) xs.length (some x) := by
  funext id
  by_cases h : id = xs.length
  · subst h; simp [table]
  · rw [Function.update_of_ne h]
    simp only [table, List.getElem?_append]
    split
    · rfl
    · rw [List.getElem?_eq_none (by simp; omega), List.getElem?_eq_none (by omega)]

theorem table_modify {xs : List (Exchange Tid Req Resp)} {id : Nat} {x : Exchange Tid Req Resp}
    (f : Exchange Tid Req Resp → Exchange Tid Req Resp) (h : table xs id = some x) :
    table (xs.modify id f) = Function.update (table xs) id (some (f x)) := by
  funext j
  simp only [table] at h ⊢
  by_cases hj : j = id
  · subst hj; simp [h]
  · rw [Function.update_of_ne hj]
    simp [table, Ne.symm hj]

theorem table_length (xs : List (Exchange Tid Req Resp)) : table xs xs.length = none := by
  simp [table]

end Exchange

end Process
