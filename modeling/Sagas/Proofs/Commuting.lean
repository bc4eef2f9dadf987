import Mathlib.Logic.Function.Basic
import Sagas.Proofs.Accounts
import Sagas.Proofs.Lanes

/-!
# Independent messages commute

Two messages that touch no instance in common can be handled in either order, where all programs
are functions of what they get to see. The tokens that the store issues are dealt out in another
order; but for their names, answers and records are the same, and each message publishes the same.

In another order the messages are also handled at other times, and a record tells when it was
saved. So records are compared but for `updatedAt`, and each of the four deliveries has a time of
its own.

* `Store.renumber`: tokens that are still to be issued under other numbers.
* `rel_refl`, `rel_congr`, `rel_symm`: the same records under other tokens.
* `issued_of_outcome`, `issued_of_find?`: tokens that turn up after a delivery were issued by it.
* `Orchestrator.Commute`: what two messages come to in either order.
* `messages_commute`: messages that touch no instance in common commute, whenever they are handled.
* `cancelling_wrapper_not_commuting`: but not inside a wrapper that cancels the signal that they
  share.
-/

namespace Sagas

variable {A : Application} {α : Type}

/-! ## Tokens by number -/

namespace Store

variable {store : Store} {f g : Nat → Nat} {token : Token}

/-- The tokens still to be issued, from 0. -/
def next (store : Store) (i : Nat) : Token := store.mint (store.saves + i + 1)

/-- Nothing that is stored has a token still to be issued, and no token is issued twice. -/
structure Fresh (store : Store) : Prop where
  once : store.IssuesOnce
  ahead : ∀ key record i, store.find? key = some record → record.token ≠ some (store.next i)

/-- A token that the store issues before it has the saves of another one. -/
def Issues (store later : Store) (token : Token) : Prop :=
  ∃ i, store.saves + i < later.saves ∧ token = store.next i

/-- Tokens still to be issued under other numbers. -/
noncomputable def renumber (store : Store) (f : Nat → Nat) : Token → Token :=
  Function.extend store.next (fun i => store.next (f i)) id

theorem IssuesOnce.next_injective (h : store.IssuesOnce) : Function.Injective store.next := by
  intro i j hij
  have hsum : store.saves + i = store.saves + j := h _ _ hij
  omega

theorem renumber_next (h : store.IssuesOnce) (i : Nat) :
    store.renumber f (store.next i) = store.next (f i) :=
  h.next_injective.extend_apply _ _ i

theorem renumber_of_ne (h : ∀ i, token ≠ store.next i) : store.renumber f token = token :=
  Function.extend_apply' _ _ _ fun ⟨i, hi⟩ => h i hi.symm

theorem renumber_renumber (h : store.IssuesOnce) (token : Token) :
    store.renumber g (store.renumber f token) = store.renumber (g ∘ f) token := by
  by_cases hnext : ∃ i, token = store.next i
  · obtain ⟨i, rfl⟩ := hnext
    rw [renumber_next h, renumber_next h, renumber_next h]
    rfl
  · have hold : ∀ i, token ≠ store.next i := fun i hi => hnext ⟨i, hi⟩
    rw [renumber_of_ne hold, renumber_of_ne hold, renumber_of_ne hold]

theorem renumber_eq_self (h : store.IssuesOnce) (hf : ∀ i, f i = i) (token : Token) :
    store.renumber f token = token := by
  by_cases hnext : ∃ i, token = store.next i
  · obtain ⟨i, rfl⟩ := hnext
    rw [renumber_next h, hf]
  · exact renumber_of_ne fun i hi => hnext ⟨i, hi⟩

/-- Numbers that can be taken back take the tokens back. -/
theorem leftInverse_renumber (h : store.IssuesOnce) (hgf : Function.LeftInverse g f) :
    Function.LeftInverse (store.renumber g) (store.renumber f) := by
  intro token
  rw [renumber_renumber h]
  exact renumber_eq_self h hgf token

end Store

theorem Simulation.emptyBench_fresh : Simulation.emptyBench.store.Fresh where
  once := Simulation.emptyBench_issuesOnce
  ahead key record i h := by cases h

/-- Two blocks of numbers, in the other order. -/
def exchange (m n i : Nat) : Nat := if i < m then i + n else if i < m + n then i - m else i

theorem leftInverse_exchange (m n : Nat) :
    Function.LeftInverse (exchange n m) (exchange m n) := by
  intro i
  unfold exchange
  split_ifs <;> omega

theorem exchange_of_lt {m n i : Nat} (h : i < m) : exchange m n i = i + n := if_pos h

theorem exchange_add {m n i : Nat} (h : i < n) : exchange m n (i + m) = i := by
  unfold exchange
  rw [if_neg (by omega), if_pos (by omega)]
  omega

theorem exchange_eq_self {m n i : Nat} (h : m + n ≤ i) : exchange m n i = i := by
  unfold exchange
  rw [if_neg (by omega), if_neg (by omega)]

namespace Store

variable {store later : Store} {m n : Nat} {token : Token}

/-- Tokens of the first block go as far as the second block is long. -/
theorem renumber_exchange (h : store.IssuesOnce) (hm : later.saves = store.saves + m)
    (htoken : store.Issues later token) :
    store.renumber (exchange m n) token = store.renumber (· + n) token := by
  obtain ⟨i, hi, rfl⟩ := htoken
  rw [renumber_next h, renumber_next h, exchange_of_lt (by omega)]

/-- Tokens of the second block come back to the beginning. -/
theorem renumber_exchange_add (h : store.IssuesOnce) (hn : later.saves = store.saves + n)
    (htoken : store.Issues later token) :
    store.renumber (exchange m n) (store.renumber (· + m) token) = token := by
  obtain ⟨i, hi, rfl⟩ := htoken
  rw [renumber_next h, renumber_next h, exchange_add (by omega)]

theorem bijective_renumber_exchange (h : store.IssuesOnce) (m n : Nat) :
    Function.Bijective (store.renumber (exchange m n)) :=
  ⟨(leftInverse_renumber h (leftInverse_exchange m n)).injective,
    (leftInverse_renumber h (leftInverse_exchange n m)).surjective⟩

/-- Tokens of neither block stay. -/
theorem issues_of_renumber_ne (h : store.IssuesOnce) (hlater : later.saves = store.saves + (m + n))
    (hne : store.renumber (exchange m n) token ≠ token) : store.Issues later token := by
  by_cases hnext : ∃ i, token = store.next i
  · obtain ⟨i, rfl⟩ := hnext
    refine ⟨i, ?_, rfl⟩
    by_contra hlate
    rw [renumber_next h, exchange_eq_self (by omega)] at hne
    exact hne rfl
  · exact absurd (renumber_of_ne fun i hi => hnext ⟨i, hi⟩) hne

end Store

/-! ## Reports and records under other tokens -/

section

variable {σ τ : Token → Token}

theorem Report.rename_congr {report : Report}
    (h : ∀ outcome ∈ report.outcomes, ∀ token, outcome.token = some token →
      σ token = τ token) : report.rename σ = report.rename τ := by
  unfold rename
  refine congrArg (Report.mk report.messageType) (List.map_congr_left fun outcome hmem => ?_)
  unfold Outcome.rename
  cases htoken : outcome.token with
  | none => rfl
  | some token => rw [Option.map_some, Option.map_some, h outcome hmem token htoken]

theorem Report.rename_rename (report : Report) :
    (report.rename σ).rename τ = report.rename (τ ∘ σ) := by
  unfold rename
  rw [List.map_map]
  refine congrArg (Report.mk report.messageType) (List.map_congr_left fun outcome _ => ?_)
  simp only [Function.comp_apply, Outcome.rename, Option.map_map]

theorem Report.rename_id (report : Report) : report.rename id = report := by
  have houtcomes : report.outcomes.map (Outcome.rename id) = report.outcomes := by
    refine List.map_id'' (fun outcome => ?_) _
    unfold Outcome.rename
    rw [Option.map_id]
    rfl
  unfold rename
  rw [houtcomes]

/-- One renaming after another. -/
theorem map_rename_map (answer : Answer) :
    (answer.map (Report.rename σ)).map (Report.rename τ) = answer.map (Report.rename (τ ∘ σ)) := by
  cases answer with
  | ok report => exact congrArg Except.ok report.rename_rename
  | error error => rfl

theorem map_rename_id (answer : Answer) : answer.map (Report.rename id) = answer := by
  cases answer with
  | ok report => exact congrArg Except.ok report.rename_id
  | error error => rfl

/-- A record is its own counterpart if its token keeps its name. -/
theorem rel_refl {found : Option Record}
    (h : ∀ token, found.bind Record.token = some token → σ token = token) :
    Option.Rel (Record.Counterpart σ) found found := by
  cases found with
  | none => exact .none
  | some record =>
    refine .some ⟨rfl, rfl, rfl, ?_⟩
    cases htoken : record.token with
    | none => rfl
    | some token => rw [Option.map_some, h token htoken]

theorem rel_congr {found found' : Option Record}
    (hrel : Option.Rel (Record.Counterpart σ) found found')
    (h : ∀ token, found.bind Record.token = some token → σ token = τ token) :
    Option.Rel (Record.Counterpart τ) found found' := by
  cases hrel with
  | none => exact .none
  | @some record record' hrecord =>
    refine .some { hrecord with token := hrecord.token.trans ?_ }
    cases htoken : record.token with
    | none => rfl
    | some token => rw [Option.map_some, Option.map_some, h token htoken]

/-- Counterparts the other way round, if tokens get their names back. -/
theorem rel_symm {found found' : Option Record}
    (hrel : Option.Rel (Record.Counterpart σ) found found')
    (h : ∀ token, found.bind Record.token = some token → τ (σ token) = token) :
    Option.Rel (Record.Counterpart τ) found' found := by
  cases hrel with
  | none => exact .none
  | @some record record' hrecord =>
    refine .some ⟨hrecord.key.symm, hrecord.status.symm, hrecord.state.symm, ?_⟩
    rw [hrecord.token]
    cases htoken : record.token with
    | none => rfl
    | some token => rw [Option.map_some, Option.map_some, h token htoken]

/-- What is stored has no token still to be issued. -/
theorem Store.Fresh.ne_next {store : Store} (h : store.Fresh) {key : Key} {token : Token}
    (htoken : (store.find? key).bind Record.token = some token) (i : Nat) :
    token ≠ store.next i := by
  obtain ⟨record, hrecord, htoken⟩ := Option.bind_eq_some_iff.1 htoken
  rintro rfl
  exact h.ahead key record i hrecord htoken

end

/-! ## Where tokens come from -/

namespace Orchestrator

variable {orchestrator : Orchestrator A} {nesting : Nat} {request : Request A.Body} {w : World A}

/-- The version of an accepted save has a token that the store issued in between. -/
theorem issues_of_bears {store : Store} {es : List (Entry A)} (h : store.Bears es) {key : Key}
    {version : Record} (hmem : version ∈ versions key es) :
    ∃ token, version.token = some token ∧ store.Issues (store.replay es) token := by
  obtain ⟨n, hlow, hhigh, htoken⟩ := token_of_mem_versions h hmem
  refine ⟨_, htoken, n - store.saves, by omega, ?_⟩
  unfold Store.next
  rw [Nat.add_sub_cancel' hlow]

/-- The token of what a turn came to is that of a record which the turn saved. -/
theorem saved_of_settled {turn : Turn A} (hmem : turn ∈ orchestrator.turns nesting request w)
    {settled : Settled} (hsettled : turn.settled? = some settled) {token : Token}
    (htoken : settled.outcome.token = some token) :
    ∃ record, Event.saved record (.ok token) ∈ turn.events := by
  obtain ⟨stage, handler, -, hacts⟩ := turn_acts hmem hsettled
  generalize turn.events = events at hacts
  cases hacts with
  | asked => cases htoken
  | @saved _ _ _ _ record issued =>
    obtain rfl : issued = token := Option.some.inj htoken
    exact ⟨record, by simp⟩

/-- **The token of an outcome was issued by the delivery.** -/
theorem issued_of_outcome (hmemory : orchestrator.InMemory) {report : Report} {outcome : Outcome}
    {token : Token} (h : (orchestrator.deliver nesting request w).1 = .ok report)
    (hmem : outcome ∈ report.outcomes) (htoken : outcome.token = some token) :
    w.store.Issues (orchestrator.deliver nesting request w).2.store token := by
  rw [answer_eq] at h
  cases hselected : orchestrator.selected request with
  | error error =>
    rw [hselected] at h
    cases h
  | ok registrations =>
    rw [hselected] at h
    obtain ⟨-, rfl⟩ := eq_report_of_gathered h
    obtain ⟨settled, hin, rfl⟩ := List.mem_map.1 hmem
    obtain ⟨turn, hturn, hsettled⟩ := List.mem_filterMap.1 hin
    obtain ⟨record, hsaved⟩ := saved_of_settled hturn hsettled htoken
    -- the save is in the history of the delivery, so it made a version
    obtain ⟨es, hes, -⟩ := deliver_yields hmemory.law nesting request w
    obtain ⟨entry, hentry, hevent⟩ := exists_entry hturn hsaved hes.history
    have hversion : { record with token := some token } ∈ versions record.toKey es := by
      refine List.mem_filterMap.2 ⟨entry, hentry, ?_⟩
      rw [hevent]
      exact if_pos rfl
    obtain ⟨issued, hissued, hissues⟩ := issues_of_bears hes.law.bears hversion
    obtain rfl := Option.some.inj hissued
    rw [hes.law.store]
    exact hissues

/-- **A record is as it was before a delivery, or has a token that was issued by it.** -/
theorem issued_of_find? (hmemory : orchestrator.InMemory) {key : Key} {record : Record}
    (h : (orchestrator.deliver nesting request w).2.store.find? key = some record) :
    w.store.find? key = some record ∨ ∃ token, record.token = some token ∧
      w.store.Issues (orchestrator.deliver nesting request w).2.store token := by
  obtain ⟨es, hes, -⟩ := deliver_yields hmemory.law nesting request w
  rw [hes.law.store] at h ⊢
  rw [find?_replay hes.law.bears] at h
  cases hlast : (versions key es).getLast? with
  | none =>
    rw [hlast] at h
    exact .inl h
  | some version =>
    rw [hlast] at h
    obtain rfl := Option.some.inj h
    exact .inr (issues_of_bears hes.law.bears (List.mem_of_getLast? hlast))

/-! ## Either order -/

/-- What a message comes to at some time. -/
def deliverAt (orchestrator : Orchestrator A) (nesting : Nat) (now : Instant)
    (request : Request A.Body) : Run A Answer :=
  fun w => orchestrator.deliver nesting request (w.wait now)

/-- The world after two messages, the first one handled early and the second one late. -/
def afterBoth (orchestrator : Orchestrator A) (nesting : Nat) (early late : Instant)
    (first second : Request A.Body) (w : World A) : World A :=
  (orchestrator.deliverAt nesting late second (orchestrator.deliverAt nesting early first w).2).2

section

variable {now : Instant} {σ τ : Token → Token}

/-- Only tokens that were issued on the way turn up in an answer. -/
theorem map_rename_answer (hmemory : orchestrator.InMemory)
    (hissued : ∀ token,
      w.store.Issues (orchestrator.deliverAt nesting now request w).2.store token →
        σ token = τ token) :
    (orchestrator.deliverAt nesting now request w).1.map (Report.rename σ) =
      (orchestrator.deliverAt nesting now request w).1.map (Report.rename τ) := by
  cases hanswer : (orchestrator.deliverAt nesting now request w).1 with
  | error error => rfl
  | ok report =>
    refine congrArg Except.ok (Report.rename_congr fun outcome hmem token htoken => ?_)
    exact hissued token (issued_of_outcome hmemory hanswer hmem htoken)

/-- Besides those, tokens from before turn up in the records. -/
theorem agree_of_find? (hmemory : orchestrator.InMemory) (hfresh : w.store.Fresh)
    (hold : ∀ token, (∀ i, token ≠ w.store.next i) → σ token = τ token)
    (hissued : ∀ token,
      w.store.Issues (orchestrator.deliverAt nesting now request w).2.store token →
        σ token = τ token) {key : Key} {token : Token}
    (h : ((orchestrator.deliverAt nesting now request w).2.store.find? key).bind Record.token =
      some token) : σ token = τ token := by
  obtain ⟨record, hrecord, htoken⟩ := Option.bind_eq_some_iff.1 h
  rcases issued_of_find? hmemory hrecord with hbefore | ⟨issued, hsome, hissues⟩
  · have hstored : (w.store.find? key).bind Record.token = some token :=
      Option.bind_eq_some_iff.2 ⟨record, hbefore, htoken⟩
    exact hold token (hfresh.ne_next hstored)
  · obtain rfl : token = issued := Option.some.inj (htoken.symm.trans hsome)
    exact hissued token hissues

end

/-- Two messages come to the same in either order, but for the names of tokens and for the times
at which records were saved: `σ` takes the tokens of the first order to those of the second one.
In the first order the messages are handled at `early` and `late`, in the second one at `early'`
and `late'`. -/
structure Commute (orchestrator : Orchestrator A) (nesting : Nat)
    (early late early' late' : Instant) (first second : Request A.Body) (w : World A)
    (σ : Token → Token) : Prop where
  bijective : Function.Bijective σ
  /-- Only tokens that are issued on the way have other names. -/
  issued : ∀ token, σ token ≠ token →
    w.store.Issues (orchestrator.afterBoth nesting early late first second w).store token
  answer :
    (orchestrator.deliverAt nesting late' first
        (orchestrator.deliverAt nesting early' second w).2).1 =
      (orchestrator.deliverAt nesting early first w).1.map (Report.rename σ)
  answer' : (orchestrator.deliverAt nesting early' second w).1 =
    (orchestrator.deliverAt nesting late second
      (orchestrator.deliverAt nesting early first w).2).1.map (Report.rename σ)
  records : ∀ key, Option.Rel (Record.Counterpart σ)
    ((orchestrator.afterBoth nesting early late first second w).store.find? key)
    ((orchestrator.afterBoth nesting early' late' second first w).store.find? key)
  saves : (orchestrator.afterBoth nesting early' late' second first w).store.saves =
    (orchestrator.afterBoth nesting early late first second w).store.saves
  /-- Each message publishes the same, in the same order. -/
  sent : ∃ messages messages',
    (orchestrator.deliverAt nesting early first w).2.outbox.sent = w.outbox.sent ++ messages ∧
    (orchestrator.deliverAt nesting early' second w).2.outbox.sent =
      w.outbox.sent ++ messages' ∧
    (orchestrator.afterBoth nesting early late first second w).outbox.sent =
      w.outbox.sent ++ messages ++ messages' ∧
    (orchestrator.afterBoth nesting early' late' second first w).outbox.sent =
      w.outbox.sent ++ messages' ++ messages

theorem Functional.inMemory (h : orchestrator.Functional) : orchestrator.InMemory := by
  obtain ⟨factories, hinMemory⟩ := h.gateways
  exact ⟨_, hinMemory⟩

/-- **A delivery leaves the instances alone that it does not touch.** The worlds before and after it
may be taken at any time. -/
theorem deliverAt_onward (h : orchestrator.Functional) (nesting : Nat) (now : Instant)
    (request : Request A.Body) (w : World A) (early late : Instant) :
    Onward (orchestrator.Touches request) (w.wait early)
        ((orchestrator.deliverAt nesting now request w).2.wait late) ∧
      ∃ n, ((orchestrator.deliverAt nesting now request w).2.wait late).store.saves =
        (w.wait early).store.saves + n := by
  -- held against itself
  let lanes : Lanes A := ⟨w.wait now, w.wait now, orchestrator.Touches request, id⟩
  have haligned : lanes.Aligned :=
    ⟨rfl, rfl, rfl, Function.injective_id, fun _ => rfl, fun _ _ => rel_refl fun _ _ => rfl⟩
  obtain ⟨-, habreast⟩ := deliver_couples h haligned (fun _ => id) nesting _ _ haligned.abreast
  obtain ⟨n, hsaves, -⟩ := habreast.saves
  exact ⟨habreast.left.wait early late, n, hsaves⟩

/-- What a message does in a world that has come on is what it does in the world from before, with
tokens that come later. -/
structure Later (orchestrator : Orchestrator A) (nesting : Nat) (request : Request A.Body)
    (w v : World A) (n : Nat) : Prop where
  answer : (orchestrator.deliver nesting request v).1 =
    (orchestrator.deliver nesting request w).1.map (Report.rename (w.store.renumber (· + n)))
  touched : ∀ key, orchestrator.Touches request key →
    Option.Rel (Record.Counterpart (w.store.renumber (· + n)))
      ((orchestrator.deliver nesting request w).2.store.find? key)
      ((orchestrator.deliver nesting request v).2.store.find? key)
  untouched : ∀ key, ¬ orchestrator.Touches request key →
    (orchestrator.deliver nesting request v).2.store.find? key = v.store.find? key
  saves : ∃ k, (orchestrator.deliver nesting request w).2.store.saves = w.store.saves + k ∧
    (orchestrator.deliver nesting request v).2.store.saves = v.store.saves + k
  sent : ∃ messages,
    (orchestrator.deliver nesting request w).2.outbox.sent = w.outbox.sent ++ messages ∧
    (orchestrator.deliver nesting request v).2.outbox.sent = v.outbox.sent ++ messages

/-- **A message does not mind what was done to instances that it does not touch**, nor what time
it is. -/
theorem deliver_later (h : orchestrator.Functional) {other : Key → Prop} {v : World A}
    (honward : Onward other w v) {n : Nat} (hsaves : v.store.saves = w.store.saves + n)
    (hfresh : w.store.Fresh)
    (hdisjoint : ∀ key, orchestrator.Touches request key → ¬ other key) :
    orchestrator.Later nesting request w v n := by
  let lanes : Lanes A := ⟨w, v, orchestrator.Touches request, w.store.renumber (· + n)⟩
  have haligned : lanes.Aligned := by
    refine ⟨honward.cancelled, honward.saving, honward.publishing, ?_, ?_, ?_⟩
    · have hback : Function.LeftInverse (· - n) (· + n) := fun i => Nat.add_sub_cancel i n
      exact (Store.leftInverse_renumber hfresh.once hback).injective
    · intro i
      have hnext : w.store.renumber (· + n) (w.store.next i) = w.store.next (i + n) :=
        Store.renumber_next hfresh.once i
      have hsum : w.store.saves + n + i + 1 = w.store.saves + (i + n) + 1 := by omega
      change v.store.mint (v.store.saves + i + 1) = w.store.renumber (· + n) (w.store.next i)
      rw [honward.mint, hsaves, hsum, hnext]
      rfl
    · intro key htouches
      change Option.Rel (Record.Counterpart (w.store.renumber (· + n))) (w.store.find? key)
        (v.store.find? key)
      rw [honward.others key (hdisjoint key htouches)]
      exact rel_refl fun token htoken => Store.renumber_of_ne (hfresh.ne_next htoken)
  obtain ⟨hanswer, habreast⟩ :=
    deliver_couples h haligned (fun _ => id) nesting _ _ haligned.abreast
  exact ⟨hanswer, habreast.records, habreast.right.others, habreast.saves, habreast.sent⟩

/-- Either order leaves the same records, by which of the two messages has touched an instance. -/
theorem records_commute {first second : Request A.Body} {early late early' late' : Instant}
    {m n : Nat} {σ : Token → Token} (hmemory : orchestrator.InMemory) (hfresh : w.store.Fresh)
    (hdisjoint : ∀ key, orchestrator.Touches first key → ¬ orchestrator.Touches second key)
    (hfirst : orchestrator.Later nesting first (w.wait early)
      ((orchestrator.deliverAt nesting early' second w).2.wait late') n)
    (hsecond : orchestrator.Later nesting second (w.wait early')
      ((orchestrator.deliverAt nesting early first w).2.wait late) m)
    (honward : Onward (orchestrator.Touches first) (w.wait early')
      ((orchestrator.deliverAt nesting early first w).2.wait late))
    (honward' : Onward (orchestrator.Touches second) (w.wait early)
      ((orchestrator.deliverAt nesting early' second w).2.wait late'))
    (hold : ∀ token, (∀ i, token ≠ w.store.next i) → σ token = token)
    (hforth : ∀ token,
      w.store.Issues (orchestrator.deliverAt nesting early first w).2.store token →
        w.store.renumber (· + n) token = σ token)
    (hback : ∀ token,
      w.store.Issues (orchestrator.deliverAt nesting early' second w).2.store token →
        (σ ∘ w.store.renumber (· + m)) token = id token) (key : Key) :
    Option.Rel (Record.Counterpart σ)
      ((orchestrator.afterBoth nesting early late first second w).store.find? key)
      ((orchestrator.afterBoth nesting early' late' second first w).store.find? key) := by
  by_cases hkey : orchestrator.Touches first key
  · -- what the first message has left is left alone by the second one
    have hsame : ∀ token, (∀ i, token ≠ w.store.next i) →
        w.store.renumber (· + n) token = σ token := fun token hne =>
      (Store.renumber_of_ne hne).trans (hold token hne).symm
    have hafter : (orchestrator.afterBoth nesting early late first second w).store.find? key =
        (orchestrator.deliverAt nesting early first w).2.store.find? key :=
      hsecond.untouched key (hdisjoint key hkey)
    rw [hafter]
    exact rel_congr (hfirst.touched key hkey) fun token =>
      agree_of_find? hmemory hfresh hsame hforth
  have hafter : (orchestrator.afterBoth nesting early' late' second first w).store.find? key =
      (orchestrator.deliverAt nesting early' second w).2.store.find? key :=
    hfirst.untouched key hkey
  rw [hafter]
  by_cases hkey' : orchestrator.Touches second key
  · have hsame : ∀ token, (∀ i, token ≠ w.store.next i) →
        (σ ∘ w.store.renumber (· + m)) token = id token := fun token hne =>
      (congrArg σ (Store.renumber_of_ne hne)).trans (hold token hne)
    exact rel_symm (hsecond.touched key hkey') fun token =>
      agree_of_find? hmemory hfresh hsame hback
  · -- neither message has come near it
    have hstart : (orchestrator.afterBoth nesting early late first second w).store.find? key =
        w.store.find? key := (hsecond.untouched key hkey').trans (honward.others key hkey)
    have hstart' : (orchestrator.deliverAt nesting early' second w).2.store.find? key =
        w.store.find? key := honward'.others key hkey'
    rw [hstart, hstart']
    exact rel_refl fun token htoken => hold token (hfresh.ne_next htoken)

/-- **Independent messages commute.** Where no instance is touched by both of two messages, either
order gives each of them the same answer and leaves the same records, but for the names of tokens
issued on the way and for the times at which they were saved, and each of them publishes the same.
Any of the deliveries may be at any time. -/
theorem messages_commute {first second : Request A.Body} (h : orchestrator.Functional)
    (hfresh : w.store.Fresh)
    (hdisjoint : ∀ key, orchestrator.Touches first key → ¬ orchestrator.Touches second key)
    (early late early' late' : Instant) :
    ∃ σ, orchestrator.Commute nesting early late early' late' first second w σ := by
  have honce := hfresh.once
  have hmemory := h.inMemory
  obtain ⟨honward, m, hm⟩ := orchestrator.deliverAt_onward h nesting early first w early' late
  obtain ⟨honward', n, hn⟩ := orchestrator.deliverAt_onward h nesting early' second w early late'
  -- what each of them does first, it does second
  have hfirst : orchestrator.Later nesting first (w.wait early)
      ((orchestrator.deliverAt nesting early' second w).2.wait late') n :=
    deliver_later h honward' hn hfresh hdisjoint
  have hsecond : orchestrator.Later nesting second (w.wait early')
      ((orchestrator.deliverAt nesting early first w).2.wait late) m :=
    deliver_later h honward hm hfresh fun key htouched htouched' =>
      hdisjoint key htouched' htouched
  let σ := w.store.renumber (exchange m n)
  have hold : ∀ token, (∀ i, token ≠ w.store.next i) → σ token = token :=
    fun _ => Store.renumber_of_ne
  have hforth : ∀ token,
      w.store.Issues (orchestrator.deliverAt nesting early first w).2.store token →
        w.store.renumber (· + n) token = σ token :=
    fun _ htoken => (Store.renumber_exchange honce hm htoken).symm
  have hback : ∀ token,
      w.store.Issues (orchestrator.deliverAt nesting early' second w).2.store token →
        (σ ∘ w.store.renumber (· + m)) token = id token :=
    fun _ => Store.renumber_exchange_add honce hn
  -- either order makes as many saves as the two messages make from the start
  obtain ⟨k, hk, hcount⟩ := hfirst.saves
  obtain ⟨l, hl, hcount'⟩ := hsecond.saves
  obtain rfl : m = k := Nat.add_left_cancel (hm.symm.trans hk)
  obtain rfl : n = l := Nat.add_left_cancel (hn.symm.trans hl)
  have hsaves : (orchestrator.afterBoth nesting early late first second w).store.saves =
      w.store.saves + (m + n) :=
    hcount'.trans ((congrArg (· + n) hm).trans (Nat.add_assoc _ m n))
  have hsaves' : (orchestrator.afterBoth nesting early' late' second first w).store.saves =
      w.store.saves + (n + m) :=
    hcount.trans ((congrArg (· + m) hn).trans (Nat.add_assoc _ n m))
  refine ⟨σ, Store.bijective_renumber_exchange honce m n, ?_, ?_, ?_, ?_, ?_, ?_⟩
  · exact fun token hne => Store.issues_of_renumber_ne honce hsaves hne
  · exact hfirst.answer.trans (map_rename_answer hmemory hforth)
  · have hanswer : (orchestrator.deliverAt nesting late second
        (orchestrator.deliverAt nesting early first w).2).1 =
          (orchestrator.deliverAt nesting early' second w).1.map
            (Report.rename (w.store.renumber (· + m))) := hsecond.answer
    rw [hanswer, map_rename_map, map_rename_answer hmemory hback, map_rename_id]
  · exact records_commute hmemory hfresh hdisjoint hfirst hsecond honward honward' hold hforth hback
  · rw [hsaves, hsaves', Nat.add_comm m n]
  · obtain ⟨messages, hsent, hboth⟩ := hfirst.sent
    obtain ⟨messages', hsent', hboth'⟩ := hsecond.sent
    exact ⟨messages, messages', hsent, hsent', hboth'.trans (congrArg (· ++ messages') hsent),
      hboth.trans (congrArg (· ++ messages) hsent')⟩

open Simulation in
/-- A pair is opened twice: four records, with four tokens. Each message may come first, at the
first instant, or second, at noon. -/
theorem messages_commute_pair :
    let noon : Instant := { Instant.epoch with time := ⟨12, 0, 0, 0, by decide⟩ }
    let first := requestFor none keepBoth
    let second := requestFor none keepOthers
    let w := World.ofResources emptyBench
    (pair "Second").Functional ∧ w.store.Fresh ∧
      (∀ key, (pair "Second").Touches first key → ¬ (pair "Second").Touches second key) ∧
      ((pair "Second").afterBoth 2 .epoch noon first second w).store.saves = 4 ∧
      ∃ σ, (pair "Second").Commute 2 .epoch noon .epoch noon first second w σ := by
  intro noon first second w
  have hdisjoint : ∀ key, (pair "Second").Touches first key →
      ¬ (pair "Second").Touches second key := pair_disjoint rfl rfl (by decide)
  exact ⟨pair_functional "Second", emptyBench_fresh, hdisjoint, by decide +kernel,
    messages_commute (pair_functional "Second") emptyBench_fresh hdisjoint .epoch noon .epoch noon⟩

open Simulation in
/-- A wrapper cancels the signal that two messages share: the one that comes second is cancelled,
though everything else is as it has to be. -/
theorem cancelling_wrapper_not_commuting :
    let wrapper := WrapperSpec.scripted ⟨none, none, none, some "AskThenFail"⟩ .cancelAfter
    let orchestrator := { pair "Second" with chain := [wrapper.toWrapper] }
    let first := requestFor none askThenFail
    let second := requestFor none keepOthers
    let w := World.ofResources
      { emptyBench with env := { Bench.empty with sending := [first.signal] } }
    (∀ registration ∈ orchestrator.directory.registrations, registration.Functional) ∧
      orchestrator.gateways.FromFactories ∧
      w.store.Fresh ∧ w.store.failing = false ∧ w.outbox.failing = false ∧
      (∀ key, orchestrator.Touches first key → ¬ orchestrator.Touches second key) ∧
      ¬ ∃ σ, orchestrator.Commute 2 .epoch .epoch .epoch .epoch first second w σ := by
  intro wrapper orchestrator first second w
  have hdisjoint : ∀ key, (pair "Second").Touches first key →
      ¬ (pair "Second").Touches second key := pair_disjoint rfl rfl (by decide)
  refine ⟨(pair_functional "Second").sagas, ⟨_, rfl⟩, emptyBench_fresh, rfl, rfl, hdisjoint, ?_⟩
  rintro ⟨σ, hcommute⟩
  have hanswer := congrArg error? hcommute.answer'
  have hok : error? (orchestrator.deliverAt 2 .epoch second w).1 = none := by decide +kernel
  have hcancelled : error? (orchestrator.deliverAt 2 .epoch second
      (orchestrator.deliverAt 2 .epoch first w).2).1 = some .cancelled := by decide +kernel
  rw [hok, eq_error_of_error? hcancelled] at hanswer
  cases hanswer

end Orchestrator

end Sagas
