import Rehearsal.Readiness

/-!
# How long a wait lasts

A wait fetches a URL once for each reading of the clock, until a fetch is answered well or a reading
reaches the timeout. `Client.fetched` is the client after some fetches and `Client.outcome` what
comes of the next one, whatever the servers do; `allowed` counts the readings before the first that
is too late. `poll_cases` says how a poll ends in these terms, by induction on the readings, and
`poll_append` that nothing after its end is looked at. `Readiness.await_outcome` is what follows for
a clock that does not go back: then the fetches that are in time are those whose own reading is.
-/

namespace Rehearsal

namespace Http

/-- Whether a fetch ended, after all redirects, with an answer that says that all is well. -/
def AnswersWell (r : Except Fault Answer) : Prop :=
  ∃ a, r = .ok a ∧ 200 ≤ a.status ∧ a.status < 300

theorem answersWell_ok {a : Answer} : AnswersWell (.ok a) ↔ a.isSuccess = true := by
  simp [AnswersWell, Answer.isSuccess]

theorem not_answersWell_error (f : Fault) : ¬ AnswersWell (.error f) := by
  rintro ⟨a, h, -⟩
  cases h

instance : DecidablePred AnswersWell
  | .ok _ => decidable_of_iff _ answersWell_ok.symm
  | .error f => isFalse (not_answersWell_error f)

namespace Client

/-- A client after it fetched a URL some number of times. -/
def fetched (url : String) : Client → Nat → Client
  | c, 0 => c
  | c, n + 1 => fetched url (c.get url).2 n

/-- What comes of a fetch of a URL after some number of others. -/
def outcome (c : Client) (url : String) (k : Nat) : Except Fault Answer :=
  ((c.fetched url k).get url).1

theorem fetched_succ (c : Client) (url : String) (n : Nat) :
    c.fetched url (n + 1) = (c.get url).2.fetched url n := by
  rw [fetched]

theorem outcome_succ (c : Client) (url : String) (k : Nat) :
    c.outcome url (k + 1) = (c.get url).2.outcome url k := by
  rw [outcome, outcome, fetched_succ]

end Client
end Http

namespace Readiness

open Http

variable {url : String} {timeout made reading : Nat} {readings more : List Nat} {c : Client}

/-! ## One attempt -/

/-- The time is up: there is no further attempt. -/
theorem poll_late (h : timeout ≤ reading) :
    poll url timeout made (reading :: readings) c = (.error (.targetNotReady made), c) := by
  rw [poll, if_neg (Nat.not_lt.2 h)]

/-- An attempt that is answered well is the last one. -/
theorem poll_well (h : reading < timeout) (hw : AnswersWell (c.get url).1) :
    poll url timeout made (reading :: readings) c = (.ok (), (c.get url).2) := by
  rw [poll, if_pos h]
  generalize c.get url = fetch at hw ⊢
  rcases fetch with ⟨f | a, d⟩
  · exact absurd hw (not_answersWell_error f)
  · exact if_pos (answersWell_ok.1 hw)

/-- Any other attempt is followed by the next reading of the clock. -/
theorem poll_again (h : reading < timeout) (hw : ¬ AnswersWell (c.get url).1) :
    poll url timeout made (reading :: readings) c =
      poll url timeout (made + 1) readings (c.get url).2 := by
  rw [poll, if_pos h]
  generalize c.get url = fetch at hw ⊢
  rcases fetch with ⟨f | a, d⟩
  · rfl
  · exact if_neg fun ha => hw (answersWell_ok.2 ha)

/-! ## The attempts that the clock allows -/

/-- How many attempts a clock allows: one for each reading before the first that reaches the
timeout. -/
def allowed (timeout : Nat) (readings : List Nat) : Nat :=
  (readings.takeWhile (· < timeout)).length

theorem allowed_cons_of_lt (h : reading < timeout) :
    allowed timeout (reading :: readings) = allowed timeout readings + 1 := by
  simp [allowed, h]

theorem allowed_cons_of_le (h : timeout ≤ reading) : allowed timeout (reading :: readings) = 0 := by
  simp [allowed, h]

/-- The reading after the attempts that a clock allows, if there is one, reaches the timeout. -/
theorem le_of_getElem?_allowed (h : readings[allowed timeout readings]? = some reading) :
    timeout ≤ reading := by
  induction readings with
  | nil => cases h
  | cons first readings ih =>
    rcases Nat.lt_or_ge first timeout with hf | hf
    · rw [allowed_cons_of_lt hf, List.getElem?_cons_succ] at h
      exact ih h
    · rw [allowed_cons_of_le hf, List.getElem?_cons_zero] at h
      exact Option.some.inj h ▸ hf

/-- The attempts that a clock allows are those whose reading is before the timeout, if the clock
does not go back. -/
theorem lt_allowed_iff (hclock : readings.Pairwise (· ≤ ·)) {k : Nat} :
    k < allowed timeout readings ↔ ∃ reading, readings[k]? = some reading ∧ reading < timeout := by
  induction readings generalizing k with
  | nil => simp [allowed]
  | cons first readings ih =>
    obtain ⟨hfirst, hrest⟩ := List.pairwise_cons.1 hclock
    rcases Nat.lt_or_ge first timeout with hf | hf
    · rw [allowed_cons_of_lt hf]
      cases k with
      | zero => simp [hf]
      | succ k => simpa using ih hrest
    · rw [allowed_cons_of_le hf]
      refine iff_of_false (Nat.not_lt_zero k) ?_
      rintro ⟨reading, hk, hlt⟩
      have hm : reading = first ∨ reading ∈ readings :=
        List.mem_cons.1 (List.mem_of_getElem? hk)
      rcases hm with rfl | hm
      · exact Nat.not_lt.2 hf hlt
      · exact Nat.not_lt.2 (Nat.le_trans hf (hfirst reading hm)) hlt

/-! ## A whole poll -/

/-- A poll ends with the first attempt that is answered well, if the clock allows one; otherwise all
attempts that it allows are made and counted. -/
theorem poll_cases (url : String) (timeout made : Nat) (readings : List Nat) (c : Client) :
    (∃ k < allowed timeout readings, AnswersWell (c.outcome url k) ∧
      (∀ j < k, ¬ AnswersWell (c.outcome url j)) ∧
      poll url timeout made readings c = (.ok (), c.fetched url (k + 1))) ∨
    ((∀ k < allowed timeout readings, ¬ AnswersWell (c.outcome url k)) ∧
      poll url timeout made readings c =
        (.error (.targetNotReady (made + allowed timeout readings)),
          c.fetched url (allowed timeout readings))) := by
  induction readings generalizing made c with
  | nil => exact .inr ⟨nofun, rfl⟩
  | cons reading readings ih =>
    rcases Nat.lt_or_ge reading timeout with h | h
    · rw [allowed_cons_of_lt h]
      by_cases hw : AnswersWell (c.get url).1
      · exact .inl ⟨0, Nat.succ_pos _, hw, nofun, poll_well h hw⟩
      -- The fetches of the rest are those of the whole but for the first one.
      · rw [poll_again h hw]
        rcases ih (made + 1) (c.get url).2 with ⟨k, hk, hwell, hbefore, he⟩ | ⟨hnone, he⟩
        · refine .inl ⟨k + 1, Nat.succ_lt_succ hk, ?_, fun j hj => ?_, ?_⟩
          · rwa [Client.outcome_succ]
          · cases j with
            | zero => exact hw
            | succ j =>
              rw [Client.outcome_succ]
              exact hbefore j (Nat.lt_of_succ_lt_succ hj)
          · rw [he, Client.fetched_succ c]
        · refine .inr ⟨fun k hk => ?_, ?_⟩
          · cases k with
            | zero => exact hw
            | succ k =>
              rw [Client.outcome_succ]
              exact hnone k (Nat.lt_of_succ_lt_succ hk)
          · rw [he, Client.fetched_succ, Nat.add_assoc, Nat.add_comm 1]
    · rw [allowed_cons_of_le h]
      exact .inr ⟨nofun, poll_late h⟩

/-- What the clock shows after the end of a poll makes no difference. -/
theorem poll_append
    (h : (∃ reading ∈ readings, timeout ≤ reading) ∨
      (poll url timeout made readings c).1 = .ok ()) (more : List Nat) :
    poll url timeout made (readings ++ more) c = poll url timeout made readings c := by
  induction readings generalizing made c with
  | nil =>
    rcases h with ⟨reading, hm, -⟩ | h
    · cases hm
    · cases h
  | cons first readings ih =>
    rw [List.cons_append]
    rcases Nat.lt_or_ge first timeout with hf | hf
    · by_cases hw : AnswersWell (c.get url).1
      · rw [poll_well hf hw, poll_well hf hw]
      · rw [poll_again hf hw] at h ⊢
        rw [poll_again hf hw]
        refine ih (h.imp_left ?_)
        rintro ⟨reading, hm, hlate⟩
        rcases List.mem_cons.1 hm with rfl | hm
        · exact absurd hf (Nat.not_lt.2 hlate)
        · exact ⟨reading, hm, hlate⟩
    · rw [poll_late hf, poll_late hf]

/-! ## A wait -/

variable {network : Network} {now : Instant}

theorem await_eq (url : String) (timeout : Nat) (readings : List Nat) (network : Network)
    (now : Instant) : await url timeout readings network now =
      ((poll url timeout 0 readings ⟨none, network, now⟩).1,
        (poll url timeout 0 readings ⟨none, network, now⟩).2.network) := rfl

theorem await_append
    (h : (∃ reading ∈ readings, timeout ≤ reading) ∨
      (await url timeout readings network now).1 = .ok ()) (more : List Nat) :
    await url timeout (readings ++ more) network now = await url timeout readings network now := by
  rw [await_eq] at h
  rw [await_eq, await_eq, poll_append h more]

/-- Without any time nothing is sent. -/
theorem await_zero (url : String) (readings : List Nat) (network : Network) (now : Instant) :
    await url 0 readings network now = (.error (.targetNotReady 0), network) := by
  cases readings with
  | nil => rfl
  | cons first readings => rw [await_eq, poll_late (Nat.zero_le first)]

/-- A wait ends with its first fetch that is answered well. -/
theorem await_of_first {k : Nat} (hk : k < allowed timeout readings)
    (hwell : AnswersWell (Client.outcome ⟨none, network, now⟩ url k))
    (hbefore : ∀ j < k, ¬ AnswersWell (Client.outcome ⟨none, network, now⟩ url j)) :
    await url timeout readings network now =
      (.ok (), (Client.fetched url ⟨none, network, now⟩ (k + 1)).network) := by
  rcases poll_cases url timeout 0 readings ⟨none, network, now⟩ with
    ⟨j, -, hj, hfirst, he⟩ | ⟨hnone, -⟩
  · obtain rfl : j = k := by
      rcases Nat.lt_trichotomy j k with hjk | hjk | hjk
      · exact absurd hj (hbefore j hjk)
      · exact hjk
      · exact absurd hwell (hfirst k hjk)
    rw [await_eq, he]
  · exact absurd hwell (hnone k hk)

/-- A wait without such a fetch makes all attempts that the clock allows. -/
theorem await_of_none (hnone : ∀ k < allowed timeout readings,
      ¬ AnswersWell (Client.outcome ⟨none, network, now⟩ url k)) :
    await url timeout readings network now =
      (.error (.targetNotReady (allowed timeout readings)),
        (Client.fetched url ⟨none, network, now⟩ (allowed timeout readings)).network) := by
  rcases poll_cases url timeout 0 readings ⟨none, network, now⟩ with ⟨k, hk, hwell, -⟩ | ⟨-, he⟩
  · exact absurd hwell (hnone k hk)
  · rw [await_eq, he, Nat.zero_add]

theorem await_ok_iff : (await url timeout readings network now).1 = .ok () ↔
    ∃ k < allowed timeout readings, AnswersWell (Client.outcome ⟨none, network, now⟩ url k) := by
  rw [await_eq]
  rcases poll_cases url timeout 0 readings ⟨none, network, now⟩ with
    ⟨k, hk, hwell, -, he⟩ | ⟨hnone, he⟩ <;> rw [he]
  · exact iff_of_true rfl ⟨k, hk, hwell⟩
  · refine iff_of_false nofun ?_
    rintro ⟨k, hk, hwell⟩
    exact hnone k hk hwell

/-- **Waiting for a good answer.** Whatever comes of the fetches, and whatever a clock shows that
does not go back:

* a wait succeeds exactly if some fetch whose reading is before the timeout is answered well, and
  then the first such fetch is the last one;
* otherwise it fails with the number of its fetches, none of which was answered well or started at
  the timeout or later, and it stops with the first reading that reaches the timeout;
* nothing is sent if the timeout is zero;
* what the clock shows after a good answer, or after it reached the timeout, makes no difference. -/
theorem await_outcome (hclock : readings.Pairwise (· ≤ ·)) (url : String) (timeout : Nat)
    (network : Network) (now : Instant) :
    let c : Client := ⟨none, network, now⟩
    let wait (readings : List Nat) := await url timeout readings network now
    ((wait readings).1 = .ok () ↔ ∃ k reading, readings[k]? = some reading ∧ reading < timeout ∧
      AnswersWell (c.outcome url k)) ∧
    (∀ k reading, readings[k]? = some reading → reading < timeout →
      AnswersWell (c.outcome url k) → (∀ j < k, ¬ AnswersWell (c.outcome url j)) →
      wait readings = (.ok (), (c.fetched url (k + 1)).network)) ∧
    ((wait readings).1 ≠ .ok () → ∃ n,
      wait readings = (.error (.targetNotReady n), (c.fetched url n).network) ∧
      (∀ k < n, ¬ AnswersWell (c.outcome url k) ∧
        ∃ reading, readings[k]? = some reading ∧ reading < timeout) ∧
      ∀ reading, readings[n]? = some reading → timeout ≤ reading) ∧
    (timeout = 0 → wait readings = (.error (.targetNotReady 0), network)) ∧
    ((∃ reading ∈ readings, timeout ≤ reading) ∨ (wait readings).1 = .ok () →
      ∀ more, wait (readings ++ more) = wait readings) := by
  intro c wait
  have hintime {k : Nat} : k < allowed timeout readings ↔
      ∃ reading, readings[k]? = some reading ∧ reading < timeout := lt_allowed_iff hclock
  refine ⟨?_, fun k reading hk hlt hwell hbefore =>
    await_of_first (hintime.2 ⟨reading, hk, hlt⟩) hwell hbefore, fun hfails => ?_, ?_, await_append⟩
  · refine await_ok_iff.trans ⟨?_, ?_⟩
    · rintro ⟨k, hk, hwell⟩
      obtain ⟨reading, hreading, hlt⟩ := hintime.1 hk
      exact ⟨k, reading, hreading, hlt, hwell⟩
    · rintro ⟨k, reading, hreading, hlt, hwell⟩
      exact ⟨k, hintime.2 ⟨reading, hreading, hlt⟩, hwell⟩
  · have hnone (k : Nat) (hk : k < allowed timeout readings) : ¬ AnswersWell (c.outcome url k) :=
      fun hwell => hfails (await_ok_iff.2 ⟨k, hk, hwell⟩)
    exact ⟨_, await_of_none hnone, fun k hk => ⟨hnone k hk, hintime.1 hk⟩,
      fun reading => le_of_getElem?_allowed⟩
  · rintro rfl
    exact await_zero url readings network now

/-- An application that is not there, then there but not ready, and ready at the third attempt. -/
def booting : Network where
  replies := [.unreachable, .answer { status := 503 }, .answer { status := 200 }]
  otherwise := .dropped
  history := []

/-- The third attempt succeeds if it is in time, and then it is the last one; if the time is up
before it, then two attempts are counted. -/
theorem await_outcome_booting : [0, 100, 200, 300].Pairwise (· ≤ ·) ∧
    (∃ after, await "http://[::1]/heartbeat" 250 [0, 100, 200, 300] booting ⟨0, 0⟩ =
      (.ok (), after) ∧ after.history.length = 3) ∧
    ∃ after, await "http://[::1]/heartbeat" 150 [0, 100, 200, 300] booting ⟨0, 0⟩ =
      (.error (.targetNotReady 2), after) := by
  have hclock : [0, 100, 200, 300].Pairwise (· ≤ ·) := by decide
  have hfails : ∀ j < 2, ¬ AnswersWell
      (Client.outcome ⟨none, booting, ⟨0, 0⟩⟩ "http://[::1]/heartbeat" j) := by decide +kernel
  have hwell : AnswersWell
      (Client.outcome ⟨none, booting, ⟨0, 0⟩⟩ "http://[::1]/heartbeat" 2) := by decide +kernel
  have hlength : (Client.fetched "http://[::1]/heartbeat" ⟨none, booting, ⟨0, 0⟩⟩
      (2 + 1)).network.history.length = 3 := by decide +kernel
  obtain ⟨-, hfirst, -, -, -⟩ :=
    await_outcome hclock "http://[::1]/heartbeat" 250 booting ⟨0, 0⟩
  have hthird : await "http://[::1]/heartbeat" 250 [0, 100, 200, 300] booting ⟨0, 0⟩ =
      (.ok (), (Client.fetched "http://[::1]/heartbeat" ⟨none, booting, ⟨0, 0⟩⟩ (2 + 1)).network) :=
    hfirst 2 200 rfl (by decide) hwell hfails
  refine ⟨hclock, ⟨_, hthird, hlength⟩, ?_⟩
  obtain ⟨hiff, -, hlast, -, -⟩ :=
    await_outcome hclock "http://[::1]/heartbeat" 150 booting ⟨0, 0⟩
  have htwo (k : Nat) :
      k < 2 ↔ ∃ reading, [0, 100, 200, 300][k]? = some reading ∧ reading < 150 := by
    have hallowed : allowed 150 [0, 100, 200, 300] = 2 := by decide
    rw [← hallowed]
    exact lt_allowed_iff hclock
  obtain ⟨n, he, hbefore, hlate⟩ := hlast fun hok => by
    obtain ⟨k, reading, hk, hlt, hw⟩ := hiff.1 hok
    exact hfails k ((htwo k).2 ⟨reading, hk, hlt⟩) hw
  obtain rfl : n = 2 := by
    rcases Nat.lt_trichotomy n 2 with hn | hn | hn
    · obtain ⟨reading, hreading, hlt⟩ := (htwo n).1 hn
      exact absurd hlt (Nat.not_lt.2 (hlate reading hreading))
    · exact hn
    · exact absurd ((htwo 2).2 (hbefore 2 hn).2) (Nat.lt_irrefl 2)
  exact ⟨_, he⟩

end Readiness
end Rehearsal
