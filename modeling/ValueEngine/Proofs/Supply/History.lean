import ValueEngine.Proofs.Supply.Walk

/-!
# Histories of a supply

User code makes calls, at the outermost level or while a call has given control to it,
and returns when it likes. A history lists what happens up to some point
(`Supply.History`). However the calls are nested, consumers of a producer that stays
there receive its candidates in their order, each once, and are told the end once and
last (`Supply.served_in_order`).
-/

set_option autoImplicit false

namespace ValueEngine

/-- What a turn adds to the trace. -/
def Turn.raised (turn : Turn) : List Occurrence := turn.event?.toList.map .raised

namespace Supply

/-- The histories of a supply that starts empty, in which no rule is broken and every
state that is reached satisfies a condition. -/
inductive History (holds : Supply → Prop) : List Occurrence → Supply → Prop where
  | start : History holds [] {}
  | call {trace : List Occurrence} {supply : Supply} (before : History holds trace supply)
      (call : Call) (calm : (supply.perform call).violation? = none)
      (held : holds (supply.perform call).supply) :
      History holds (trace ++ .called call :: (supply.perform call).raised)
        (supply.perform call).supply
  | resume {trace : List Occurrence} {supply : Supply} (before : History holds trace supply)
      (calm : supply.resume.violation? = none) (held : holds supply.resume.supply) :
      History holds (trace ++ supply.resume.raised) supply.resume.supply

/-- A consumer asks at most once for each candidate it has received. -/
def Modest (number : SupplyId) (trace : List Occurrence) : Prop :=
  ∀ before, before ++ [.called (.ask number)] <+: trace →
    asks number before < (received number before).length

/-- What a consumer sees of the producer that it has subscribed to. -/
structure Served (number : SupplyId) (trace : List Occurrence) (producer : Producer) :
    Prop where
  /-- It receives the first candidates, in their order and each once. -/
  received_prefix : received number trace <+: producer.results
  /-- It is told the end at most once. -/
  failures_le : failures number trace ≤ 1
  /-- When it is told the end the producer is finished, it has received every candidate,
  and it receives nothing any more. -/
  last : ∀ before failure after, trace = before ++ .raised (.failed number failure) :: after →
    producer.finished = true ∧ received number before = producer.results ∧
      received number after = []

variable {id number : SupplyId} {trace : List Occurrence} {supply : Supply}

theorem tidy_empty : Tidy {} where
  producer_id _ _ found := by cases found
  subscription_id _ _ found := by cases found
  waits _ _ found := by cases found
  genuine _ _ found := by cases found

theorem walk_empty (id number : SupplyId) : Walk id number [] {} where
  absent _ := ⟨⟨rfl, rfl, rfl⟩, rfl, rfl⟩
  present _ _ found := by cases found

theorem History.keeps (history : History (Keeps id) trace supply) : supply.Keeps id := by
  cases history with
  | start => exact fun _ found => nomatch found
  | call before call calm held => exact held
  | resume before calm held => exact held

theorem History.tidy {holds : Supply → Prop} (history : History holds trace supply) :
    supply.Tidy := by
  induction history with
  | start => exact tidy_empty
  | call before call calm held ih => exact ih.effect ((perform_effect ih call).reached calm)
  | resume before calm held ih => exact ih.effect ((resume_effect ih).reached calm)

theorem Modest.of_prefix {earlier later : List Occurrence} (modest : Modest number later)
    (prior : earlier <+: later) : Modest number earlier :=
  fun before asked => modest before (asked.trans prior)

/-- Asking in time can be checked along the trace. -/
theorem modest_of_forall_lt {items : List Occurrence}
    (check : ∀ position < items.length, items[position]? = some (.called (.ask number)) →
      asks number (items.take position) < (received number (items.take position)).length) :
    Modest number items := by
  rintro before ⟨after, rfl⟩
  have split : before ++ [.called (.ask number)] ++ after =
      before ++ .called (.ask number) :: after := (List.append_cons _ _ _).symm
  have early := check before.length
  rw [split, List.getElem?_append_right (Nat.le_refl _), Nat.sub_self, List.take_left] at early
  refine early ?_ rfl
  rw [List.length_append, List.length_cons]
  omega

theorem asked?_eq_some_iff {call : Call} : call.asked? = some number ↔ call = .ask number := by
  cases call with
  | ask other => simp [Call.asked?]
  | _ => simp [Call.asked?]

/-- A call keeps the pace. -/
theorem Walk.perform (walk : Walk id number trace supply) (tidy : supply.Tidy)
    (keeps : supply.Keeps id) {call : Call} (calm : (supply.perform call).violation? = none)
    (modest : call = .ask number → asks number trace < (received number trace).length) :
    Walk id number (trace ++ .called call :: (supply.perform call).raised)
      (supply.perform call).supply := by
  rw [List.append_cons]
  refine (walk.called modest).effect tidy keeps (fun asked subscription offer found own offered => ?_)
    ((perform_effect tidy call).reached calm)
  obtain rfl := asked?_eq_some_iff.mp asked
  exact (walk.present subscription offer found own offered).unserved (modest rfl)

/-- A call that goes on keeps the pace. -/
theorem Walk.resume (walk : Walk id number trace supply) (tidy : supply.Tidy)
    (keeps : supply.Keeps id) (calm : supply.resume.violation? = none) :
    Walk id number (trace ++ supply.resume.raised) supply.resume.supply := by
  refine walk.effect tidy keeps (fun asked => ?_) ((resume_effect tidy).reached calm)
  cases asked

/-- A subscription keeps its pace along a history. -/
theorem History.walk (history : History (Keeps id) trace supply)
    (modest : Modest number trace) : Walk id number trace supply := by
  induction history with
  | start => exact walk_empty id number
  | @call trace supply before call calm held ih =>
    have earlier := modest.of_prefix (List.prefix_append _ _)
    refine (ih earlier).perform before.tidy before.keeps calm fun asking => ?_
    subst asking
    rw [List.append_cons] at modest
    exact modest trace (List.prefix_append _ _)
  | resume before calm held ih =>
    exact (ih (modest.of_prefix (List.prefix_append _ _))).resume before.tidy before.keeps calm

/-- A subscription that keeps its pace is served. -/
theorem Served.of_pace {producer : Producer} {subscription : Subscription}
    {pending : List Candidate} {failing : Nat}
    (pace : Pace number trace producer.offer subscription pending failing) :
    Served number trace producer where
  received_prefix := by
    have first : received number trace <+: producer.results.take subscription.delivered :=
      ⟨pending, pace.given_eq⟩
    exact first.trans (List.take_prefix _ _)
  failures_le := Nat.le_trans (Nat.le_add_right _ _) pace.once
  last before failure after split := by
    have whole : trace = before ++ [.raised (.failed number failure)] ++ after :=
      split.trans (List.append_cons _ _ _)
    have told : 0 < failures number trace := by
      rw [whole, failures_append, failures_append, failures_failed]
      omega
    have earlier : received number before = producer.results :=
      pace.before_failure before failure ⟨after, whole.symm⟩
    obtain ⟨finished, _, all⟩ := pace.ended (Nat.add_pos_left told failing)
    refine ⟨finished, earlier, ?_⟩
    rw [split, received_append, earlier] at all
    exact List.append_right_eq_self.mp all

/-- **Consumers are served in order.** The candidates of a producer are different and meet
its requirement. As long as the producer is there, every consumer that asks at most once
for each candidate it has received receives the first candidates, in their order and each
once, and is told the end once, after the last of them. -/
theorem served_in_order (id : SupplyId) {trace : List Occurrence} {supply : Supply}
    (history : History (Keeps id) trace supply) {producer : Producer}
    (found : supply.producer? id = some producer) :
    (producer.results.map Candidate.specification).Nodup ∧
      (∀ value ∈ producer.results,
        producer.requirement.satisfiedBy value.specification = true) ∧
      ∀ number subscription, supply.subscription? number = some subscription →
        subscription.producer = id → Modest number trace → Served number trace producer := by
  have offered := offer?_of_producer? found
  have genuine := history.tidy.genuine id _ offered
  refine ⟨genuine.distinct, genuine.satisfying, fun number subscription known own modest => ?_⟩
  exact .of_pace ((history.walk modest).present subscription _ known own offered)

/-- The market price of something. -/
def price : Requirement := { name := "price", target := "bond" }

/-- A candidate for the price on some market. -/
def quote (market : String) : Candidate where
  specification :=
    { name := "price", target := "bond", properties := .ofList [("market", market)] }
  function := { id := market }

/-- A consumer that waits is given a quote, and asks for more while it is given it; the
source declares another quote and the end while it is asked. -/
theorem served_in_order_nested :
    ∃ (trace : List Occurrence) (supply : Supply) (producer : Producer)
      (subscription : Subscription),
      History (Keeps 0) trace supply ∧ supply.producer? 0 = some producer ∧
        supply.subscription? 1 = some subscription ∧ subscription.producer = 0 ∧
        Modest 1 trace ∧ received 1 trace = [quote "spot", quote "future"] ∧
        failures 1 trace = 1 ∧ Served 1 trace producer := by
  have empty : History (Keeps 0) [] {} := .start
  have made := empty.call (.create price) rfl (fun _ _ => rfl)
  have subscribed := made.call (.subscribe 0) rfl (fun _ _ => rfl)
  have given := subscribed.call (.push 0 (quote "spot")) rfl (fun _ _ => rfl)
  have asked := given.call (.ask 1) rfl (fun _ _ => rfl)
  have more := asked.call (.push 0 (quote "future")) rfl (fun _ _ => rfl)
  have ended := more.call (.finish 0) rfl (fun _ _ => rfl)
  have told := ended.call (.ask 1) rfl (fun _ _ => rfl)
  refine ⟨_, _, _, _, told, rfl, rfl, rfl, ?modest, ?received, rfl, ?served⟩
  case modest => exact modest_of_forall_lt (by decide +kernel)
  case received => decide +kernel
  case served =>
    exact (served_in_order 0 told rfl).2.2 1 _ rfl rfl
      (modest_of_forall_lt (by decide +kernel))

end Supply

end ValueEngine
