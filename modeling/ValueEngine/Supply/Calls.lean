import ValueEngine.Supply.Basic

/-!
# Calls on the supply

Each call runs until it answers, gives control to user code or breaks a rule.
When user code returns, the innermost unfinished call goes on
(`Supply.resume`).

A subscription takes a reference on its producer and gives it back once, when it
is closed, cancelled or failed. A candidate that arrives is given to every
waiting subscription in turn, and the end is told to every waiting subscription
in turn; the subscriptions stop waiting before the first of them is called.

All calls are made on one thread: user code that is given control calls again before it returns, so
the calls nest. Calls of several threads that overlap are left out.
-/

set_option autoImplicit false

namespace ValueEngine.Supply

/-! ## Ends of a call -/

/-- Give up all unfinished calls. -/
def breaks (supply : Supply) (violation : Violation) : Turn :=
  .violation violation { supply with agenda := [] }

/-- Give control to user code, leaving a frame behind. -/
def yieldTo (supply : Supply) (event : SupplyEvent) (frame : Frame) : Turn :=
  .event event (supply.pushFrame frame)

/-! ## References -/

/-- Take a reference on a producer. -/
def addReference (supply : Supply) (id : SupplyId) : Turn :=
  match supply.producer? id with
  | none => supply.breaks (.unknown id)
  | some producer =>
    if producer.references = 0 then supply.breaks (.referenceToReleased producer)
    else
      .answer .done (supply.putProducer { producer with references := producer.references + 1 })

/-- Give back a reference on a producer; the answer may depend on how many
remain. -/
def releaseThen (supply : Supply) (id : SupplyId) (answer : Nat → Answer) : Turn :=
  match supply.producer? id with
  | none => supply.breaks (.unknown id)
  | some producer =>
    if producer.references = 0 then supply.breaks (.releaseOfReleased producer)
    else
      .answer (answer (producer.references - 1))
        (supply.putProducer { producer with references := producer.references - 1 })

/-- Give back a reference on a producer; how many remain is answered. -/
def release (supply : Supply) (id : SupplyId) : Turn := supply.releaseThen id .count

/-! ## Producers -/

/-- A new producer, owned by the caller and holding one reference. -/
def create (supply : Supply) (requirement : Requirement) : Turn :=
  let id := supply.nextId
  .answer (.producer id)
    { supply.putProducer { id, requirement } with
      owned := id :: supply.owned
      nextId := id + 1 }

/-- Stop owning a producer. -/
def disown (supply : Supply) (id : SupplyId) : Turn :=
  .answer .done { supply with owned := supply.owned.erase id }

/-- All candidates of a finished producer. -/
def results (supply : Supply) (id : SupplyId) : Turn :=
  match supply.producer? id with
  | none => supply.breaks (.unknown id)
  | some producer =>
    if producer.finished then .answer (.candidates producer.results) supply
    else supply.breaks (.resultsBeforeFinish producer)

/-- Record a cause of failure. -/
def recordFailure (supply : Supply) (id : SupplyId) (cause : Failure) : Turn :=
  match supply.producer? id with
  | none => supply.breaks (.unknown id)
  | some producer =>
    match producer.recordFailure cause with
    | (changed, none) => .answer .done (supply.putProducer changed)
    | (changed, some mixed) => (supply.putProducer changed).breaks (.mixedFailures mixed)

/-- Ask the source of a producer for more, without anybody waiting. -/
def seek (supply : Supply) (id : SupplyId) : Turn :=
  supply.yieldTo (.sought id) (.answering (some id) .done)

/-! ## Subscriptions -/

/-- Subscribe a consumer. It is given the first candidate at once when there is
one, and fails at once when the producer is finished without any. -/
def subscribe (supply : Supply) (id : SupplyId) : Turn :=
  match supply.producer? id with
  | none => supply.breaks (.unknown id)
  | some producer =>
    if producer.references = 0 then supply.breaks (.referenceToReleased producer)
    else
      let number := supply.nextId
      let producer := { producer with references := producer.references + 1 }
      let subscription : Subscription := { id := number, producer := id, known := producer.results }
      let supply := { supply with nextId := number + 1 }
      match subscription.next? with
      | some value =>
        ((supply.putProducer producer).putSubscription subscription.advance).yieldTo
          (.resolved number value) (.answering (some id) (.subscription (some number)))
      | none =>
        if producer.finished then
          ((supply.putProducer producer).putSubscription
            { subscription with closed := true }).yieldTo
            (.failed number producer.failure) (.releasing id (.subscription none))
        else
          .answer (.subscription (some number))
            ((supply.putProducer
              { producer with waiting := producer.waiting.insert number }).putSubscription
                subscription)

/-- A consumer asks for the next candidate. -/
def ask (supply : Supply) (number : SupplyId) : Turn :=
  match supply.subscription? number with
  | none => supply.breaks (.unknown number)
  | some subscription =>
    match supply.producer? subscription.producer with
    | none => supply.breaks (.unknown subscription.producer)
    | some producer =>
      if supply.isAlive producer.id then
        let resolved := fun (subscription : Subscription) (value : Candidate) =>
          (supply.putSubscription subscription.advance).yieldTo (.resolved number value)
            (.answering (some producer.id) .done)
        if subscription.closed then supply.breaks (.askAfterClosing number)
        else
          match subscription.next? with
          | some value => resolved subscription value
          | none =>
            let subscription := subscription.refresh producer.results
            match subscription.next? with
            | some value => resolved subscription value
            | none =>
              if producer.finished then
                (supply.putSubscription { subscription with closed := true }).yieldTo
                  (.failed number producer.failure) (.releasing producer.id .done)
              else if number ∈ producer.waiting then
                (supply.putSubscription subscription).breaks (.askWhileWaiting number)
              else
                let waiting :=
                  (supply.putSubscription subscription).putProducer
                    { producer with waiting := producer.waiting.insert number }
                if producer.waiting.isEmpty then
                  waiting.yieldTo (.sought producer.id) (.answering (some producer.id) .done)
                else .answer .done waiting
      else supply.yieldTo (.failed number none) (.answering none .done)

/-- Detach a waiting consumer; a consumer that does not wait stays attached. -/
def cancel (supply : Supply) (number : SupplyId) : Turn :=
  match supply.subscription? number with
  | none => supply.breaks (.unknown number)
  | some subscription =>
    match supply.producer? subscription.producer with
    | none => supply.breaks (.unknown subscription.producer)
    | some producer =>
      if supply.isAlive producer.id && decide (number ∈ producer.waiting) then
        ((supply.putSubscription { subscription with closed := true }).putProducer
          { producer with waiting := producer.waiting.erase number }).releaseThen producer.id
            fun _ => .flag true
      else .answer (.flag false) supply

/-- Detach a consumer for good. -/
def close (supply : Supply) (number : SupplyId) : Turn :=
  match supply.subscription? number with
  | none => supply.breaks (.unknown number)
  | some subscription =>
    match supply.producer? subscription.producer with
    | none => supply.breaks (.unknown subscription.producer)
    | some producer =>
      if supply.isAlive producer.id then
        if subscription.closed then supply.breaks (.closeOfClosed number)
        else
          ((supply.putSubscription { subscription with closed := true }).putProducer
            { producer with waiting := producer.waiting.erase number }).releaseThen producer.id
              fun _ => .done
      else .answer .done supply

/-! ## Candidates and the end -/

/-- Give a new candidate to the consumers that waited, one after the other. -/
def deliver (supply : Supply) (id : SupplyId) : List (SupplyId × Candidate) → Turn
  | [] => .answer (.flag true) supply
  | (number, value) :: rest => supply.yieldTo (.resolved number value) (.delivering id rest)

/-- Show the candidates of a producer to one of the subscriptions that waited,
and note what it will be given. -/
def collect (results : List Candidate) (state : Supply × List (SupplyId × Candidate))
    (number : SupplyId) : Supply × List (SupplyId × Candidate) :=
  match state.1.subscription? number with
  | none => state
  | some subscription =>
    let subscription := subscription.refresh results
    match subscription.next? with
    | none => (state.1.putSubscription subscription, state.2)
    | some value => (state.1.putSubscription subscription.advance, state.2 ++ [(number, value)])

/-- A new candidate has been found. It is refused when one with the same
specification is known already; otherwise every waiting consumer is given it. -/
def push (supply : Supply) (id : SupplyId) (value : Candidate) : Turn :=
  match supply.producer? id with
  | none => supply.breaks (.unknown id)
  | some producer =>
    if !producer.requirement.satisfiedBy value.specification then
      supply.breaks (.unsatisfying value.specification producer.requirement)
    else if producer.finished then supply.breaks (.pushAfterFinish producer)
    else if producer.offers value.specification then .answer (.flag false) supply
    else
      let results := producer.results ++ [value]
      let (supply, deliveries) :=
        producer.waiting.toList.foldl (collect results)
          (supply.putProducer { producer with results, waiting := ∅ }, [])
      supply.deliver id deliveries

/-- Tell the end to the consumers that waited, one after the other. -/
def tellEnd (supply : Supply) (id : SupplyId) (failure : Option Failure) :
    List SupplyId → Turn
  | [] => .answer .done supply
  | number :: rest => supply.yieldTo (.failed number failure) (.failing id failure rest)

/-- Mark a subscription as detached. -/
def markClosed (supply : Supply) (number : SupplyId) : Supply :=
  match supply.subscription? number with
  | none => supply
  | some subscription => supply.putSubscription { subscription with closed := true }

/-- There will be no more candidates. -/
def finish (supply : Supply) (id : SupplyId) : Turn :=
  match supply.producer? id with
  | none => supply.breaks (.unknown id)
  | some producer =>
    if producer.finished then supply.breaks (.finishedTwice producer)
    else
      let waited := producer.waiting.toList
      (waited.foldl markClosed
        (supply.putProducer { producer with finished := true, waiting := ∅ })).tellEnd id
          producer.failure waited

/-! ## The registry -/

/-- The registered producer of a requirement. -/
def registered? (supply : Supply) (requirement : Requirement) : Option SupplyId :=
  supply.registry.get? requirement

/-- The registered producer of a requirement, for the caller, who owns it from now
on. No reference is taken on it. -/
def fetch (supply : Supply) (requirement : Requirement) : Option SupplyId × Supply :=
  match supply.registered? requirement with
  | none => (none, supply)
  | some id => (some id, { supply with owned := id :: supply.owned })

/-- The registered producer of a requirement, unless all references to it have
been given back. -/
def referenced? (supply : Supply) (requirement : Requirement) : Option Producer :=
  ((supply.registered? requirement).bind supply.producer?).filter fun producer =>
    decide (producer.references ≠ 0)

/-- Take a reference on a producer for the caller, who owns it from now on. -/
def handOut (supply : Supply) (producer : Producer) : Turn :=
  .answer (.producer producer.id)
    { supply.putProducer { producer with references := producer.references + 1 } with
      owned := producer.id :: supply.owned }

/-- The registered producer of a requirement, with one more reference. When there
is none to be had, user code is asked to make a source for a new one. -/
def obtain (supply : Supply) (requirement : Requirement) : Turn :=
  match supply.referenced? requirement with
  | some producer => supply.handOut producer
  | none => supply.yieldTo (.sourcing requirement) (.installing requirement)

/-- Register a new producer, unless one has been registered in the meantime. -/
def install (supply : Supply) (requirement : Requirement) : Turn :=
  match supply.referenced? requirement with
  | some producer => supply.handOut producer
  | none =>
    { supply with registry := supply.registry.insert requirement supply.nextId }.create requirement

/-- Give back a reference on the registered producer of a requirement. A finished
producer without references leaves the registry. -/
def releaseRegistered (supply : Supply) (requirement : Requirement) : Turn :=
  match (supply.registered? requirement).bind supply.producer? with
  | none => .answer (.countIfKnown none) supply
  | some producer =>
    let released :=
      if producer.references = 1 && producer.finished then
        { supply with registry := supply.registry.erase requirement }
      else supply
    released.releaseThen producer.id fun remaining => .countIfKnown (some remaining)

/-- Whether a producer has to stay registered: it is referenced or not finished. -/
def isNeeded (supply : Supply) (id : SupplyId) : Bool :=
  match supply.producer? id with
  | none => true
  | some producer => decide (producer.references ≠ 0) || !producer.finished

/-- Remove the finished producers without references from the registry, and
answer how many there were. -/
def purge (supply : Supply) : Turn :=
  let kept := supply.registry.filter fun _ id => supply.isNeeded id
  .answer (.count (supply.registry.size - kept.size)) { supply with registry := kept }

/-! ## Going on -/

/-- User code has returned: the innermost unfinished call goes on. -/
def resume (supply : Supply) : Turn :=
  match supply.agenda with
  | [] => .answer .done supply
  | frame :: outer =>
    let rest := { supply with agenda := outer }
    match frame with
    | .answering _ answer => .answer answer rest
    | .releasing id answer => rest.releaseThen id fun _ => answer
    | .delivering id deliveries => rest.deliver id deliveries
    | .failing id failure numbers =>
      match rest.releaseThen id fun _ => .done with
      | .answer _ released => released.tellEnd id failure numbers
      | other => other
    | .installing requirement => rest.install requirement

/-! ## All calls -/

/-- A call that user code can make. -/
inductive Call where
  /-- Make a producer. -/
  | create (requirement : Requirement)
  /-- Have the registered producer of a requirement. -/
  | obtain (requirement : Requirement)
  /-- Give back a reference on a registered producer. -/
  | releaseRegistered (requirement : Requirement)
  /-- Remove what the registry no longer needs. -/
  | purge
  /-- Stop owning a producer. -/
  | disown (producer : SupplyId)
  /-- Subscribe to a producer. -/
  | subscribe (producer : SupplyId)
  /-- Ask for the next candidate. -/
  | ask (subscription : SupplyId)
  /-- Detach a waiting consumer. -/
  | cancel (subscription : SupplyId)
  /-- Detach a consumer. -/
  | close (subscription : SupplyId)
  /-- Declare a candidate. -/
  | push (producer : SupplyId) (value : Candidate)
  /-- Declare the end. -/
  | finish (producer : SupplyId)
  /-- Record a cause of failure. -/
  | recordFailure (producer : SupplyId) (cause : Failure)
  /-- Take a reference. -/
  | addReference (producer : SupplyId)
  /-- Give back a reference. -/
  | release (producer : SupplyId)
  /-- Have all candidates. -/
  | results (producer : SupplyId)
  /-- Ask the source for more. -/
  | seek (producer : SupplyId)
deriving DecidableEq

/-- Make a call. -/
def perform (supply : Supply) : Call → Turn
  | .create requirement => supply.create requirement
  | .obtain requirement => supply.obtain requirement
  | .releaseRegistered requirement => supply.releaseRegistered requirement
  | .purge => supply.purge
  | .disown id => supply.disown id
  | .subscribe id => supply.subscribe id
  | .ask number => supply.ask number
  | .cancel number => supply.cancel number
  | .close number => supply.close number
  | .push id value => supply.push id value
  | .finish id => supply.finish id
  | .recordFailure id cause => supply.recordFailure id cause
  | .addReference id => supply.addReference id
  | .release id => supply.release id
  | .results id => supply.results id
  | .seek id => supply.seek id

end ValueEngine.Supply
