import Rehearsal.Course.Form
import Rehearsal.Login
import Rehearsal.Proofs.JoinedAddresses
import Rehearsal.Proofs.SinglePass
import Rehearsal.Runner

/-!
# Placeholders of addresses

A path behind the placeholder of an address stands for what the setup makes of that path. The one
is put together by the passes of the placeholders, the other by a join; both drop the slashes at the
end of the address. A pass leaves a text alone that has no occurrence of its token
(`Text.replaceAll_of_not_infix`), and it goes over a beginning in which none starts; so the passes
before an address find nothing, one puts it in, and those after it find nothing again
(`Placeholders.expandText_token_append`). `Placeholders.expand_address` says this of both addresses,
and of the steps, waits and logouts that meet there.
-/

namespace Rehearsal

/-- A text without an occurrence of another one is left as it is. -/
theorem Text.replaceAll_of_not_infix {part new s : List Char} (h : ¬ part <:+: s) :
    replaceAll part new s = s := by
  induction s with
  | nil => rfl
  | cons c r ih =>
    have hbegins : ¬ part <+: c :: r := fun hp => h hp.isInfix
    have hrest : ¬ part <:+: r := fun hi => h (hi.trans (List.suffix_cons c r).isInfix)
    rw [replaceAll_cons_of_not_begins hbegins, ih hrest]

/-- A runner that was not told of an answer yet waits for one at the address of its path. -/
theorem Runner.ensureReady_eq (r : Runner) (hready : r.targetReady = false) {path : String}
    (hpath : r.settings.readinessPath = some path) (stage : Stage) :
    let waited := Readiness.await (r.settings.setup.lmsAddress path) r.settings.readinessTimeout
      (stage.readings r.settings.readinessTimeout) stage.network stage.now
    (r.ensureReady stage).1 = waited.1 ∧ (r.ensureReady stage).2.2.network = waited.2 := by
  intro waited
  rcases hw : waited with ⟨f | ⟨⟩, network⟩
  · simp [ensureReady, hready, hpath, waited, hw]
  · simp [ensureReady, hready, hpath, waited, hw]

namespace Placeholders

open Text

/-- Passes find nothing in a beginning in which no token starts, nor in a path that has none. -/
theorem foldl_put_front {x path : List Char} {values : List (String × Option String)}
    (h : ∀ v ∈ values, mayStart (token v.1) x = false ∧ ¬ token v.1 <:+: path) :
    values.foldl put (x ++ path) = x ++ path := by
  induction values with
  | nil => rfl
  | cons v values ih =>
    obtain ⟨⟨hstart, hpath⟩, hrest⟩ := List.forall_mem_cons.1 h
    have hput : put (x ++ path) v = x ++ path := by
      obtain ⟨name, value⟩ := v
      cases value with
      | none => rfl
      | some new =>
        rw [put, replaceAll_of_not_mayStart hstart, replaceAll_of_not_infix hpath]
    rw [List.foldl_cons, hput, ih hrest]

/-- A placeholder in front of a path without tokens stands for its value, if the value has no
opening brace and no token that is replaced before starts in the placeholder. -/
theorem expandText_token_append {p : Placeholders} {before after : List (String × Option String)}
    {name value : String} {path : List Char}
    (hvalues : p.values = before ++ (name, some value) :: after)
    (hbefore : ∀ v ∈ before, mayStart (token v.1) (token name) = false)
    (hvalue : '\x7b' ∉ value.toList) (hpath : ∀ v ∈ p.values, ¬ token v.1 <:+: path) :
    p.expandText (token name ++ path) = value.toList ++ path := by
  rw [hvalues, List.forall_mem_append, List.forall_mem_cons] at hpath
  obtain ⟨hfirst, hown, hlater⟩ := hpath
  have hput : put (token name ++ path) (name, some value) = value.toList ++ path := by
    rw [put, replaceAll_self (by simp [token]), replaceAll_of_not_infix hown]
  rw [expandText_eq, hvalues, List.foldl_append, List.foldl_cons,
    foldl_put_front fun v hv => ⟨hbefore v hv, hfirst v hv⟩, hput,
    foldl_put_front fun v hv => ⟨mayStart_of_not_mem hvalue, hlater v hv⟩]

/-! ## The two addresses of a setup -/

/-- A path that starts with a slash, but not with two, is put behind the address as it is. -/
theorem joinAddress_eq_append {path : String} {r : List Char} (hpath : path.toList = '/' :: r)
    (hr : r.head? ≠ some '/') (base : String) :
    joinAddress base path = trimSlashes base ++ path := by
  have hrest : path.toList.dropWhile (· = '/') = r := by
    rw [hpath]
    cases r with
    | nil => rfl
    | cons c r =>
      have hc : c ≠ '/' := fun hc => hr (congrArg some hc)
      simp [hc]
  have hrelative : isAbsoluteAddress path.toList = false := by
    rw [hpath]
    rfl
  rw [← String.toList_inj, toList_joinAddress, joinAddressText_of_relative hrelative, hrest,
    ← hpath, String.toList_append, trimSlashes, String.toList_ofList]

theorem not_mem_trimSlashes {s : String} {c : Char} (h : c ∉ s.toList) :
    c ∉ (trimSlashes s).toList := by
  obtain ⟨n, hn⟩ := exists_trimTrailingSlashes s.toList
  rw [trimSlashes, String.toList_ofList]
  exact fun hc => h (hn ▸ List.mem_append_left _ hc)

/-- An address of a setup that is put in for a placeholder in front of a path. -/
theorem expand_token_append {p : Placeholders} {before after : List (String × Option String)}
    {name text base path : String} (hname : text.toList = token name)
    (hvalues : p.values = before ++ (name, some (trimSlashes base)) :: after)
    (hbefore : ∀ v ∈ before, mayStart (token v.1) (token name) = false)
    (hbase : '\x7b' ∉ base.toList)
    (hslash : ∃ r, path.toList = '/' :: r ∧ r.head? ≠ some '/')
    (hpath : ∀ v ∈ p.values, ¬ token v.1 <:+: path.toList) :
    p.expand (text ++ path) = joinAddress base path := by
  obtain ⟨r, hr, hne⟩ := hslash
  rw [joinAddress_eq_append hr hne, ← String.toList_inj, expand, String.toList_ofList,
    String.toList_append, String.toList_append, hname,
    expandText_token_append hvalues hbefore (not_mem_trimSlashes hbase) hpath]

/-- **Placeholders of addresses.** For addresses without braces, with any slashes at their ends, and
a path that starts with one slash and has no token: whatever course was created and whatever the
letters of the run are, the placeholder of an address in front of the path stands for the address of
that path in the setup. So a step of the browser goes where the suite itself waits for the
application, ends a session and opens the page for courses. -/
theorem expand_address {s : Setup} {path : String} (hlms : '\x7b' ∉ s.lms.toList)
    (hcms : '\x7b' ∉ s.cms.toList) (hslash : ∃ r, path.toList = '/' :: r ∧ r.head? ≠ some '/')
    (htoken : ∀ name ∈ earlier ++ ["course_key"], ¬ token name <:+: path.toList)
    (unique : String) (key : Option String) :
    let p := { ofSetup s unique with courseKey := key }
    (p.expand ("\x7blms\x7d" ++ path) = s.lmsAddress path ∧
      p.expand ("\x7bcms\x7d" ++ path) = s.cmsAddress path) ∧
    (∀ waitFor,
      p.expandStep (.navigate ("\x7blms\x7d" ++ path) waitFor) =
          .navigate (s.lmsAddress path) (waitFor.map p.expand) ∧
        p.expandStep (.navigate ("\x7bcms\x7d" ++ path) waitFor) =
          .navigate (s.cmsAddress path) (waitFor.map p.expand)) ∧
    (∀ (r : Runner) (stage : Stage), r.settings.setup = s →
      r.settings.readinessPath = some path → r.targetReady = false →
      let waited := Readiness.await (p.expand ("\x7blms\x7d" ++ path)) r.settings.readinessTimeout
        (stage.readings r.settings.readinessTimeout) stage.network stage.now
      (r.ensureReady stage).1 = waited.1 ∧ (r.ensureReady stage).2.2.network = waited.2) ∧
    (s.login.logoutPath = path → ∀ session : Session,
      session.logOut s = session.status (p.expand ("\x7blms\x7d" ++ path))) ∧
    (s.course.landingPath = path → ∀ c : Course, (c.creation s).head? = some (.navigate
      (p.expand ("\x7bcms\x7d" ++ path)) (some s.course.selectors.newCourseButton))) := by
  intro p
  have htokens : ∀ v ∈ p.values, ¬ token v.1 <:+: path.toList := fun v hv =>
    htoken v.1 (map_fst_values p ▸ List.mem_map_of_mem hv)
  have hfirst : p.values = [] ++ ("lms", some (trimSlashes s.lms)) :: p.values.drop 1 := rfl
  have hsecond : p.values = [("lms", some (trimSlashes s.lms))] ++
    ("cms", some (trimSlashes s.cms)) :: p.values.drop 2 := rfl
  have hstart : ∀ v ∈ [("lms", some (trimSlashes s.lms))],
      mayStart (token v.1) (token "cms") = false := by
    simp only [List.mem_singleton, forall_eq]
    decide
  have hl : p.expand ("\x7blms\x7d" ++ path) = s.lmsAddress path :=
    expand_token_append rfl hfirst nofun hlms hslash htokens
  have hc : p.expand ("\x7bcms\x7d" ++ path) = s.cmsAddress path :=
    expand_token_append rfl hsecond hstart hcms hslash htokens
  refine ⟨⟨hl, hc⟩, fun waitFor => ⟨?_, ?_⟩, fun r stage hsetup hpath hready => ?_,
    fun hlogout session => ?_, fun hlanding c => ?_⟩
  · rw [expandStep, hl]
  · rw [expandStep, hc]
  · rw [hl, ← hsetup]
    exact r.ensureReady_eq hready hpath stage
  · rw [hl, ← hlogout]
    rfl
  · rw [hc, ← hlanding]
    rfl

/-- A setup with slashes at the ends of its addresses. -/
def slashed : Setup := { lms := "http://[::1]//", cms := "http://[::1]:4701/" }

/-- Braces that make no token may stand anywhere in the path. -/
theorem expand_address_braces : '\x7b' ∉ slashed.lms.toList ∧ '\x7b' ∉ slashed.cms.toList ∧
    (∀ name ∈ earlier ++ ["course_key"], ¬ token name <:+: "/\x7bx\x7dlms\x7d/\x7b".toList) ∧
    (ofSetup slashed "abcdefghij").expand "\x7blms\x7d/\x7bx\x7dlms\x7d/\x7b" =
      "http://[::1]/\x7bx\x7dlms\x7d/\x7b" ∧
    (ofSetup slashed "abcdefghij").expand "\x7bcms\x7d/\x7bx\x7dlms\x7d/\x7b" =
      "http://[::1]:4701/\x7bx\x7dlms\x7d/\x7b" := by
  have hlms : '\x7b' ∉ slashed.lms.toList := by decide
  have hcms : '\x7b' ∉ slashed.cms.toList := by decide
  have htoken : ∀ name ∈ earlier ++ ["course_key"],
      ¬ token name <:+: "/\x7bx\x7dlms\x7d/\x7b".toList := by decide +kernel
  have h := expand_address hlms hcms ⟨_, rfl, by decide⟩ htoken "abcdefghij" none
  exact ⟨hlms, hcms, htoken, h.1.1, h.1.2⟩

end Placeholders
end Rehearsal
