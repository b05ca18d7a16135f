import Backlog.Proofs.Workshop.Turns
/-!
# Dealings with an arbitrary store

A workshop has one store in memory, which keeps its rules.  The service promises something of any
store at all: one that answers whatever the type of a call allows, fails in any way, and holds other
tasks at each call than it did at the last.  Such a store is an oracle.  Each time a party takes its
turn it meets an `Encounter`, which has a reply to every call it might make, the states of the store
around the call, the clock and the next identifier; nothing relates one encounter to the next.

A party that meets a list of encounters acts by the same moves as in a workshop.  What it has done
is a list of acts, the last one first, and every act names the encounter it belongs to.

## Main results

* `deals_of_encounter` — what a party makes of an encounter, in three cases.
* `keeps_of_deals` — what every encounter keeps, all of them keep.
* `movesLeft_deal` — encounters bring a party to its end.
-/

namespace Backlog

variable {H S : Type}

/-- What a party meets when it takes its turn; `S` are the states of the store. -/
structure Encounter (S : Type) where
  now : Instant
  fresh : TaskId
  before : S
  /-- What the store says to a call. -/
  replies : (c : StoreCall) → c.Reply
  after : S

/-- Something that a party did. -/
inductive Act (S : Type) where
  | call (met : Encounter S) (c : StoreCall)
  | signal

namespace Act

/-- Whether an act is a search for a task in flight. -/
def isSearch : Act S → Bool
  | call _ (.findActive _) => true
  | _ => false

def isInsert : Act S → Bool
  | call _ (.insert _) => true
  | _ => false

def isSignal : Act S → Bool
  | signal => true
  | call _ _ => false

/-- Whether an act only looks at the store. -/
def isLookup : Act S → Bool
  | call _ c => c.isLookup
  | signal => true

/-- Whether an act is a call that failed, or an update that counted nothing. -/
def isVain : Act S → Bool
  | call met (.updateIf id g u) =>
    match met.replies (.updateIf id g u) with
    | .error _ => true
    | .ok rows => rows == 0
  | call met c =>
    match met.replies c with
    | .error _ => true
    | .ok _ => false
  | signal => false

/-- An act that leaves the store as it meets it. -/
def Keeps : Act S → Prop
  | call met _ => met.after = met.before
  | signal => True

end Act

/-- A party and what it has done, the last act first. -/
structure Dealing (H S : Type) where
  party : Party H
  acts : List (Act S)

namespace Dealing

/-- A party takes its turn. -/
def meet (d : Dealing H S) (met : Encounter S) : Dealing H S :=
  match d.party.move met.now met.fresh with
  | .call c next => ⟨(next (met.replies c)).1, .call met c :: d.acts⟩
  | .signal p => ⟨p, .signal :: d.acts⟩
  | .rest => d

/-- A party takes its turns. -/
def deal (d : Dealing H S) (mets : List (Encounter S)) : Dealing H S := mets.foldl meet d

variable {d d' : Dealing H S}

/-- What a party can make of an encounter. -/
inductive Deals (d : Dealing H S) : Dealing H S → Prop where
  | rest : Deals d d
  | call {c : StoreCall} {next : c.Reply → Party H} (met : Encounter S)
      (asks : d.party.Asks met.now met.fresh c next) :
      Deals d ⟨next (met.replies c), .call met c :: d.acts⟩
  | signal {t : Task} (stood : d.party = .submit (.signal t)) :
      Deals d ⟨.submit (.done (.ok t)), .signal :: d.acts⟩

theorem deals_of_encounter (d : Dealing H S) (met : Encounter S) : Deals d (d.meet met) := by
  unfold meet
  cases hm : d.party.move met.now met.fresh with
  | call c next => exact .call met (Party.asks_of_move hm)
  | signal p =>
      obtain ⟨t, ht, rfl⟩ := Party.signal_of_move hm
      exact .signal ht
  | rest => exact .rest

/-- What every encounter keeps, all of them keep. -/
theorem keeps_of_deals {P : Dealing H S → Prop} (keep : ∀ d d', Deals d d' → P d → P d')
    {d : Dealing H S} (h : P d) (mets : List (Encounter S)) : P (d.deal mets) := by
  induction mets generalizing d with
  | nil => exact h
  | cons met mets ih => exact ih (keep d _ (d.deals_of_encounter met) h)

/-- An encounter brings a party nearer to its end. -/
theorem movesLeft_meet (d : Dealing H S) (met : Encounter S) :
    (d.meet met).party.movesLeft ≤ d.party.movesLeft - 1 := by
  unfold meet
  cases hm : d.party.move met.now met.fresh with
  | call c next => exact Party.movesLeft_of_asks (Party.asks_of_move hm) _
  | signal p =>
      obtain ⟨t, _, rfl⟩ := Party.signal_of_move hm
      exact Nat.zero_le _
  | rest =>
      have hzero := Party.movesLeft_of_rest hm
      show d.party.movesLeft ≤ _
      omega

/-- Encounters bring a party to its end. -/
theorem movesLeft_deal (mets : List (Encounter S)) (d : Dealing H S) :
    (d.deal mets).party.movesLeft ≤ d.party.movesLeft - mets.length := by
  induction mets generalizing d with
  | nil => exact Nat.le_refl _
  | cons met mets ih =>
      have hone := d.movesLeft_meet met
      have hrest := ih (d.meet met)
      show ((d.meet met).deal mets).party.movesLeft ≤ _
      rw [List.length_cons]
      omega

end Dealing

/-- Something that arrives, after it met encounters. -/
def Arrival.dealing (a : Arrival H) (mets : List (Encounter S)) : Dealing H S :=
  Dealing.deal ⟨a.party, []⟩ mets

end Backlog
