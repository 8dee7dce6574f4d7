import Mathlib.Data.Set.Insert
import Rehearsal.Proofs.Exchange

/-!
# What answers do to a jar

Each cookie that an answer sets stands in the place of those of its key, or only removes them, and
leaves all others as they are. `Jar.Overwrites f keys` says this of a function on jars, of its
cookies and without regard to their order; it is kept by composition, so it holds of whole traces
(`Jar.overwrites_heard`). What overwrites does nothing more when it is done again
(`Jar.Overwrites.twice`). What a trace sets depends on the time only by the cookies that are over,
so another trace with the same URLs and replies does the same at any time before one of them ends
(`Jar.heard_again`).
-/

namespace Rehearsal.Http

namespace Jar

/-! ## Overwriting -/

/-- What tells cookies from each other. -/
abbrev Key := List Char × List Char × List Char

/-- A function on jars overwrites the cookies of some keys: it has its own ones, the same for every
jar, drops all that a jar has of these keys, and keeps the others. -/
def Overwrites (f : Jar → Jar) (keys : Set Key) : Prop :=
  ∀ (jar : Jar) (d : Cookie), d ∈ f jar ↔ d ∈ f [] ∨ (d ∈ jar ∧ d.key ∉ keys)

variable {f g : Jar → Jar} {keys more : Set Key} {jar : Jar} {c d : Cookie}

theorem overwrites_id : Overwrites id ∅ := by
  intro jar d
  simp

theorem Overwrites.comp (hf : Overwrites f keys) (hg : Overwrites g more) :
    Overwrites (fun jar => g (f jar)) (keys ∪ more) := by
  intro jar d
  rw [hg (f jar), hf jar, hg (f []), Set.mem_union, not_or]
  constructor
  · rintro (h | ⟨h | ⟨h, hk⟩, hm⟩)
    · exact .inl (.inl h)
    · exact .inl (.inr ⟨h, hm⟩)
    · exact .inr ⟨h, hk, hm⟩
  · rintro ((h | ⟨h, hm⟩) | ⟨h, hk, hm⟩)
    · exact .inl h
    · exact .inr ⟨.inl h, hm⟩
    · exact .inr ⟨.inr ⟨h, hk⟩, hm⟩

theorem Overwrites.own (hf : Overwrites f keys) (h : d ∈ f []) : d ∈ f jar := (hf jar d).2 (.inl h)

/-- To overwrite the same cookies again changes nothing. -/
theorem Overwrites.twice (hf : Overwrites f keys) (jar : Jar) (d : Cookie) :
    d ∈ f (f jar) ↔ d ∈ f jar := by
  rw [hf (f jar), hf jar]
  constructor
  · rintro (h | ⟨h, -⟩)
    · exact .inl h
    · exact h
  · rintro (h | h)
    · exact .inl h
    · exact .inr ⟨.inr h, h.2⟩

theorem overwrites_foldl {α : Type} {f : Jar → α → Jar}
    (hf : ∀ a, ∃ keys, Overwrites (fun jar => f jar a) keys) (l : List α) :
    ∃ keys, Overwrites (fun jar => l.foldl f jar) keys := by
  induction l with
  | nil => exact ⟨∅, overwrites_id⟩
  | cons a l ih =>
    obtain ⟨keys, ha⟩ := hf a
    obtain ⟨more, hl⟩ := ih
    exact ⟨keys ∪ more, ha.comp hl⟩

/-! ## Cookies that are set -/

theorem mem_put_iff : d ∈ jar.put c ↔ d = c ∨ (d ∈ jar ∧ d.key ≠ c.key) := by
  unfold put
  split
  · rename_i hany
    obtain ⟨e, he, hek⟩ := List.any_eq_true.1 hany
    rw [List.mem_map]
    constructor
    · rintro ⟨b, hb, rfl⟩
      split
      · exact .inl rfl
      · rename_i hne
        exact .inr ⟨hb, hne⟩
    · rintro (rfl | ⟨hd, hne⟩)
      · exact ⟨e, he, if_pos (of_decide_eq_true hek)⟩
      · exact ⟨d, hd, if_neg hne⟩
  · rename_i hany
    have hnone : ∀ e ∈ jar, e.key ≠ c.key := by simpa using hany
    rw [List.mem_append, List.mem_singleton, or_comm]
    exact or_congr_right ⟨fun hd => ⟨hd, hnone d hd⟩, fun hd => hd.1⟩

theorem overwrites_put (c : Cookie) : Overwrites (fun jar => jar.put c) {c.key} := by
  intro jar d
  rw [mem_put_iff, mem_put_iff, Set.mem_singleton_iff]
  simp

theorem overwrites_without (key : Key) : Overwrites (fun jar => jar.without key) {key} := by
  intro jar d
  simp [without]

theorem overwrites_accept (now : Instant) (u : Url) (s : SetCookie) :
    ∃ keys, Overwrites (fun jar => accept now u jar s) keys := by
  unfold accept
  rcases s.from? u with _ | c
  · exact ⟨∅, overwrites_id⟩
  · rcases s.lifetime.isOver now
    · exact ⟨{c.key}, overwrites_put c⟩
    · exact ⟨{c.key}, overwrites_without c.key⟩

theorem overwrites_receive (now : Instant) (u : Url) (set : List (List UInt8)) :
    ∃ keys, Overwrites (receive now u set) keys := by
  unfold receive
  exact overwrites_foldl (overwrites_accept now u) _

theorem overwrites_heard (now : Instant) (trace : Trace) :
    ∃ keys, Overwrites (fun jar => jar.heard now trace) keys := by
  have hstep : ∀ e : Request × Reply,
      ∃ keys, Overwrites (fun jar => receive now e.1.url e.2.setCookies jar) keys :=
    fun e => overwrites_receive now e.1.url e.2.setCookies
  exact overwrites_foldl hstep trace

end Jar

/-! ## At another time -/

/-- No cookie that the replies of a trace set ends between two times. -/
def Lasting (now later : Instant) (trace : Trace) : Prop :=
  ∀ e ∈ trace, ∀ header ∈ e.2.setCookies, ∀ s, Jar.setCookie? header = some s →
    s.lifetime.isOver later = true → s.lifetime.isOver now = true

variable {now later : Instant} {trace again : Trace}

theorem Lasting.left (h : Lasting now later (trace ++ again)) : Lasting now later trace :=
  fun e he => h e (List.mem_append_left _ he)

theorem Lifetime.isOver_mono (h : now.seconds ≤ later.seconds) {l : Lifetime}
    (hl : l.isOver now = true) : l.isOver later = true := by
  cases l with
  | session => exact hl
  | lasting seconds => exact hl
  | «until» t =>
    simp only [isOver, decide_eq_true_eq] at hl ⊢
    exact le_trans hl h

theorem Jar.receive_later (h : now.seconds ≤ later.seconds) {set : List (List UInt8)}
    (hl : ∀ header ∈ set, ∀ s, setCookie? header = some s →
      s.lifetime.isOver later = true → s.lifetime.isOver now = true) (u : Url) (jar : Jar) :
    jar.receive later u set = jar.receive now u set := by
  unfold receive
  refine List.foldl_ext _ _ _ fun jar s hs => ?_
  obtain ⟨header, hm, he⟩ := List.mem_filterMap.1 hs
  have hover : s.lifetime.isOver later = s.lifetime.isOver now :=
    Bool.eq_iff_iff.2 ⟨hl header hm s he, Lifetime.isOver_mono h⟩
  unfold accept
  rw [hover]

/-- What a jar hears depends on the URLs and replies of a trace, and on nothing else of its requests;
and on the time only by the cookies that end. -/
theorem Jar.heard_again (h : now.seconds ≤ later.seconds) (hl : Lasting now later trace)
    (ha : List.Forall₂ (fun e f => f.1.url = e.1.url ∧ e.2 = f.2) trace again) (jar : Jar) :
    jar.heard later again = jar.heard now trace := by
  induction ha generalizing jar with
  | nil => rfl
  | @cons e f trace again hef _ ih =>
    obtain ⟨hurl, hreply⟩ := hef
    obtain ⟨he, htrace⟩ := List.forall_mem_cons.1 hl
    have hstep : jar.receive later f.1.url f.2.setCookies = jar.receive now e.1.url e.2.setCookies := by
      rw [hurl, ← hreply]
      exact receive_later h he _ _
    exact (congrArg (heard later · again) hstep).trans (ih htrace _)

end Rehearsal.Http
