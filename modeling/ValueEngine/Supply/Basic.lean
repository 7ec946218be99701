import ValueEngine.Data.SortedMap
import ValueEngine.Data.SortedSet
import ValueEngine.Failure.Merge

/-!
# The supply of candidates

A producer collects the candidates for one requirement. Consumers subscribe to
it, and each subscription walks the list of candidates at its own pace. A
subscription that asks for more than the producer knows becomes idle and waits;
the producer then asks its source for more.

User code runs in the middle of calls: consumers when they are given a value or
a failure, sources when they are asked for more, and the code that makes a new
source. Such code may call the supply again. A call that has given control to
user code leaves a frame behind that says how it goes on, and the frames of all
unfinished calls are part of the state, the innermost first.

A producer that nobody holds any more is gone: nobody owns it, the registry does
not have it and no unfinished call works on it. Its subscriptions then fail when
they ask for more.
-/

set_option autoImplicit false

namespace ValueEngine

/-! ## Producers and subscriptions -/

/-- The number of a producer or of a subscription; both are counted together. -/
abbrev SupplyId := Nat

/-- Collects the candidates for a requirement. -/
structure Producer where
  /-- The number of the producer. -/
  id : SupplyId
  /-- What the candidates have to meet. -/
  requirement : Requirement
  /-- The candidates found, the first one first. -/
  results : List Candidate := []
  /-- The subscriptions that wait for a candidate. -/
  waiting : SortedSet SupplyId := ∅
  /-- How many references are held. -/
  references : Nat := 1
  /-- Whether there will be no more candidates. -/
  finished : Bool := false
  /-- What has been recorded of failed attempts. -/
  failure : Option Failure := none
deriving DecidableEq

namespace Producer

/-- How a producer shows itself. -/
def label (producer : Producer) : String :=
  "Producer" ++ toString producer.id ++ "[" ++ producer.requirement.text ++ "]"

/-- Whether a candidate with the same specification is known already. -/
def offers (producer : Producer) (specification : Specification) : Bool :=
  producer.results.any fun known => decide (known.specification = specification)

/-- The failure into which a cause is merged: it records every candidate that
has been found. -/
def failureWithResults (producer : Producer) (failure : Failure) : Failure :=
  (producer.results.drop failure.resolvedCount).foldl Failure.addResolved failure

/-- Record a cause of failure, after the candidates found so far. The first
cause of a producer without candidates is kept as it is. A cause for another
requirement is refused once the candidates have been recorded. -/
def recordFailure (producer : Producer) (cause : Failure) :
    Producer × Option Failure.MixedRequirements :=
  let start :=
    match producer.failure, producer.results with
    | some known, _ => some known
    | none, first :: _ => some (Failure.ofNote producer.requirement (.resolvedValue first))
    | none, [] => none
  match start with
  | none => ({ producer with failure := some cause }, none)
  | some start =>
    let recorded := producer.failureWithResults start
    match recorded.merge cause with
    | .ok merged => ({ producer with failure := some merged }, none)
    | .error mixed => ({ producer with failure := some recorded }, some mixed)

end Producer

/-- One consumer's walk along the candidates of a producer. -/
structure Subscription where
  /-- The number of the subscription. -/
  id : SupplyId
  /-- The producer subscribed to. -/
  producer : SupplyId
  /-- The candidates of the producer when they were last looked at. -/
  known : List Candidate := []
  /-- How many candidates have been given to the consumer. -/
  delivered : Nat := 0
  /-- Whether the consumer is detached. -/
  closed : Bool := false
deriving DecidableEq

namespace Subscription

/-- The next candidate to be given to the consumer, if it is known. -/
def next? (subscription : Subscription) : Option Candidate :=
  subscription.known[subscription.delivered]?

/-- One more candidate has been given to the consumer. -/
def advance (subscription : Subscription) : Subscription :=
  { subscription with delivered := subscription.delivered + 1 }

/-- Look at the candidates of the producer again. -/
def refresh (subscription : Subscription) (results : List Candidate) : Subscription :=
  { subscription with known := results }

/-- How a subscription shows itself. -/
def label (subscription : Subscription) (requirement : Requirement) : String :=
  "Callback" ++ toString subscription.id ++ "[" ++ requirement.text ++ "]"

end Subscription

/-! ## Answers, events and violations -/

/-- What a call answers. -/
inductive Answer where
  /-- The call is done. -/
  | done
  /-- Whether something happened. -/
  | flag (value : Bool)
  /-- A number. -/
  | count (value : Nat)
  /-- A number, if there is something to count. -/
  | countIfKnown (value : Option Nat)
  /-- A producer. -/
  | producer (id : SupplyId)
  /-- A subscription, unless it failed at once. -/
  | subscription (id : Option SupplyId)
  /-- All candidates of a producer. -/
  | candidates (values : List Candidate)
deriving DecidableEq

/-- User code that a call gives control to. -/
inductive SupplyEvent where
  /-- A consumer is given a candidate. -/
  | resolved (subscription : SupplyId) (value : Candidate)
  /-- A consumer is told that there are no more candidates. -/
  | failed (subscription : SupplyId) (failure : Option Failure)
  /-- The source of a producer is asked for more. -/
  | sought (producer : SupplyId)
  /-- A source for a requirement has to be made. -/
  | sourcing (requirement : Requirement)
deriving DecidableEq

/-- A call that breaks the rules of the supply. -/
inductive Violation where
  /-- A reference was taken on a producer that all references were given back of. -/
  | referenceToReleased (producer : Producer)
  /-- More references were given back than taken. -/
  | releaseOfReleased (producer : Producer)
  /-- A detached consumer asked for more. -/
  | askAfterClosing (subscription : SupplyId)
  /-- A waiting consumer asked for more. -/
  | askWhileWaiting (subscription : SupplyId)
  /-- A detached consumer was detached. -/
  | closeOfClosed (subscription : SupplyId)
  /-- A candidate does not meet the requirement. -/
  | unsatisfying (value : Specification) (requirement : Requirement)
  /-- A candidate was found after the end. -/
  | pushAfterFinish (producer : Producer)
  /-- The end was declared twice. -/
  | finishedTwice (producer : Producer)
  /-- The candidates were asked for before the end. -/
  | resultsBeforeFinish (producer : Producer)
  /-- A cause of failure is about another requirement. -/
  | mixedFailures (mixed : Failure.MixedRequirements)
  /-- Nothing has this number. -/
  | unknown (id : SupplyId)
deriving DecidableEq

/-- The text of a violation. -/
def Violation.message : Violation → String
  | referenceToReleased producer => "add_ref on released producer " ++ producer.label
  | releaseOfReleased producer => "release on released producer " ++ producer.label
  | askAfterClosing subscription => "pump called on closed callback " ++ toString subscription
  | askWhileWaiting subscription =>
    "callback " ++ toString subscription ++ " pumped twice without receiving a value"
  | closeOfClosed subscription => "callback " ++ toString subscription ++ " closed twice"
  | unsatisfying value requirement => value.text ++ " does not satisfy " ++ requirement.text
  | pushAfterFinish producer => "result pushed to finished producer " ++ producer.label
  | finishedTwice producer => "finished called twice on " ++ producer.label
  | resultsBeforeFinish producer => "results requested before " ++ producer.label ++ " finished"
  | mixedFailures mixed => mixed.message
  | unknown id => "unknown object " ++ toString id

/-! ## The state -/

/-- How a call goes on when the user code that it gave control to returns. -/
inductive Frame where
  /-- Answer. -/
  | answering (producer : Option SupplyId) (answer : Answer)
  /-- Give back the reference of a subscription that failed, and answer. -/
  | releasing (producer : SupplyId) (answer : Answer)
  /-- Give a new candidate to the rest of the consumers that waited for it. -/
  | delivering (producer : SupplyId) (rest : List (SupplyId × Candidate))
  /-- Give back the reference of a subscription that was told of the end, and
  tell the rest of those that waited. -/
  | failing (producer : SupplyId) (failure : Option Failure) (rest : List SupplyId)
  /-- Register a producer with the source that was made. -/
  | installing (requirement : Requirement)
deriving DecidableEq

/-- The producer that an unfinished call works on. -/
def Frame.producer? : Frame → Option SupplyId
  | answering producer _ => producer
  | releasing producer _ => some producer
  | delivering producer _ => some producer
  | failing producer _ _ => some producer
  | installing _ => none

/-- All producers and subscriptions, and the calls that are not finished. -/
structure Supply where
  /-- The producers, the ones that are gone included. -/
  producers : SortedMap SupplyId Producer := ∅
  /-- The subscriptions. -/
  subscriptions : SortedMap SupplyId Subscription := ∅
  /-- The registered producer of each requirement. -/
  registry : SortedMap Requirement SupplyId := ∅
  /-- The producers that user code owns, each as often as it does. -/
  owned : List SupplyId := []
  /-- The number of the next producer or subscription. -/
  nextId : SupplyId := 0
  /-- The unfinished calls, the innermost first. -/
  agenda : List Frame := []
deriving DecidableEq

namespace Supply

/-- The producer with a number. -/
def producer? (supply : Supply) (id : SupplyId) : Option Producer := supply.producers.get? id

/-- The subscription with a number. -/
def subscription? (supply : Supply) (id : SupplyId) : Option Subscription :=
  supply.subscriptions.get? id

/-- Whether a producer is still there. -/
def isAlive (supply : Supply) (id : SupplyId) : Bool :=
  decide (id ∈ supply.owned) || decide (id ∈ supply.registry.values) ||
    supply.agenda.any fun frame => decide (frame.producer? = some id)

/-- Write down the state of a producer. -/
def putProducer (supply : Supply) (producer : Producer) : Supply :=
  { supply with producers := supply.producers.insert producer.id producer }

/-- Write down the state of a subscription. -/
def putSubscription (supply : Supply) (subscription : Subscription) : Supply :=
  { supply with subscriptions := supply.subscriptions.insert subscription.id subscription }

/-- Leave a frame behind. -/
def pushFrame (supply : Supply) (frame : Frame) : Supply :=
  { supply with agenda := frame :: supply.agenda }

end Supply

/-- Where a call stands when user code is in control again. -/
inductive Turn where
  /-- The innermost call has answered. -/
  | answer (answer : Answer) (supply : Supply)
  /-- The innermost call has given control to user code. -/
  | event (event : SupplyEvent) (supply : Supply)
  /-- A call broke the rules; all unfinished calls are given up. -/
  | violation (violation : Violation) (supply : Supply)
deriving DecidableEq

/-- The state of the supply at a turn. -/
def Turn.supply : Turn → Supply
  | answer _ supply => supply
  | event _ supply => supply
  | violation _ supply => supply

end ValueEngine
