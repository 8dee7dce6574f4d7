import Rehearsal.Http.Jar
import Rehearsal.Proofs.Utf8Text

/-!
# Headers with cookies

A jar writes its cookies into one header, and a session reads the header again. Names and values
that come from a header which sets a cookie are `Legible`: no separator stands in them where it
would be taken for one. So reading gives back exactly what was written (`readHeader_render`), and
the pairs that a jar would send are those of its cookies (`Jar.From.pairs`). A jar is `From` some
headers if each of its cookies was set by one of them; receiving an answer keeps that
(`Jar.From.receive`).
-/

namespace Rehearsal.Http

open Text

/-! ## Reading what was written -/

/-- A name and a value that can be told apart, and from their neighbours, in a header. -/
structure Legible (name value : List Char) : Prop where
  nonempty : name ≠ []
  noEquals : '=' ∉ name
  noSemicolon : ';' ∉ name
  valueNoSemicolon : ';' ∉ value
  trimmed : trim name = name
  valueTrimmed : trim value = value

/-- How a pair of name and value stands in a header. -/
def renderPair (p : List Char × List Char) : List Char := p.1 ++ '=' :: p.2

/-- Pairs of name and value as a header. -/
def renderPairs (pairs : List (List Char × List Char)) : List Char :=
  joinWith [';', ' '] (pairs.map renderPair)

section
variable {name value : List Char}

theorem Legible.semicolon_not_mem (h : Legible name value) : ';' ∉ renderPair (name, value) := by
  simp [renderPair, h.noSemicolon, h.valueNoSemicolon]

theorem Legible.trim_renderPair (h : Legible name value) :
    trim (renderPair (name, value)) = renderPair (name, value) := by
  apply trim_eq_self
  · intro c hc
    obtain ⟨d, r, hd⟩ := List.exists_cons_of_ne_nil h.nonempty
    rw [renderPair, hd, List.cons_append, List.head?_cons] at hc
    apply isBlank_head_trim (s := name)
    rw [h.trimmed, hd, List.head?_cons, hc]
  · intro c hc
    cases value with
    | nil =>
      obtain rfl : '=' = c := by simpa [renderPair] using hc
      decide
    | cons d r =>
      have he : renderPair (name, d :: r) = (name ++ ['=']) ++ d :: r := by simp [renderPair]
      rw [he, List.getLast?_append, List.getLast?_eq_some_getLast (List.cons_ne_nil d r),
        Option.some_or, ← List.getLast?_eq_some_getLast] at hc
      apply isBlank_getLast_trim (s := d :: r)
      rw [h.valueTrimmed, hc]

theorem Legible.readPair? (h : Legible name value) :
    readPair? (renderPair (name, value)) = some (name, value) := by
  rw [Http.readPair?, h.trim_renderPair]
  exact splitOnce_eq_some.2 ⟨h.noEquals, rfl⟩

end

/-- The pairs that were written into a header are read from it. -/
theorem readHeader_render {pairs : List (List Char × List Char)}
    (h : ∀ p ∈ pairs, Legible p.1 p.2) : readHeader (utf8 (renderPairs pairs)) = pairs := by
  have hread : ∀ ps : List (List Char × List Char), (∀ p ∈ ps, Legible p.1 p.2) →
      (ps.map fun p => ' ' :: renderPair p).filterMap readPair? = ps := by
    intro ps hps
    induction ps with
    | nil => rfl
    | cons p ps ih =>
      obtain ⟨hp, hr⟩ := List.forall_mem_cons.1 hps
      have hb : Http.readPair? (' ' :: renderPair p) = some p := by
        rw [Http.readPair?, trim_cons_of_isBlank (by decide)]
        exact hp.readPair?
      rw [List.map_cons, List.filterMap_cons_some hb, ih hr]
  unfold readHeader
  rw [decodeLossy_utf8]
  cases pairs with
  | nil => rfl
  | cons p ps =>
    obtain ⟨hp, hr⟩ := List.forall_mem_cons.1 h
    have hs : ∀ f ∈ renderPair p :: ps.map renderPair, ';' ∉ f := by
      rw [← List.map_cons (f := renderPair)]
      intro f hf
      obtain ⟨q, hq, rfl⟩ := List.mem_map.1 hf
      exact (h q hq).semicolon_not_mem
    rw [renderPairs, List.map_cons, splitOn_joinWith (by decide) hs, List.map_map,
      List.filterMap_cons_some hp.readPair?]
    exact congrArg _ (hread ps hr)

/-! ## What a header sets -/

namespace SetCookie

theorem addAttribute_pair (c : SetCookie) (part : List Char) :
    (c.addAttribute part).name = c.name ∧ (c.addAttribute part).value = c.value := by
  unfold addAttribute
  simp only
  split <;> dsimp only <;> repeat' split
  all_goals exact ⟨rfl, rfl⟩

theorem foldl_addAttribute (attributes : List (List Char)) (c : SetCookie) :
    (attributes.foldl addAttribute c).name = c.name ∧
      (attributes.foldl addAttribute c).value = c.value := by
  induction attributes generalizing c with
  | nil => exact ⟨rfl, rfl⟩
  | cons part attributes ih =>
    obtain ⟨hn, hv⟩ := ih (c.addAttribute part)
    obtain ⟨hn', hv'⟩ := addAttribute_pair c part
    exact ⟨hn.trans hn', hv.trans hv'⟩

/-- The name and the value of a cookie are the trimmed parts of the first field. -/
theorem parse?_ok {s : List Char} {c : SetCookie} (h : parse? s = some c) :
    ∃ k v, '=' ∉ k ∧ ';' ∉ k ∧ ';' ∉ v ∧ k ++ '=' :: v <+: s ∧ trim k ≠ [] ∧
      c.name = trim k ∧ c.value = trim v := by
  unfold parse? at h
  split at h
  · cases h
  · rename_i pair attributes hs
    obtain ⟨hsemi, hpre⟩ := splitOn_head hs
    split at h
    · cases h
    · rename_i k v hkv
      obtain ⟨hk, rfl⟩ := splitOnce_eq_some.1 hkv
      simp only at h
      split at h
      · cases h
      · rename_i hne
        cases h
        obtain ⟨hn, hv⟩ := foldl_addAttribute attributes { name := trim k, value := trim v }
        refine ⟨k, v, hk, fun hm => hsemi ?_, fun hm => hsemi ?_, hpre, by simpa using hne, hn, hv⟩
        · exact List.mem_append_left _ hm
        · exact List.mem_append_right _ (List.mem_cons_of_mem _ hm)

theorem legible_of_parse? {s : List Char} {c : SetCookie} (h : parse? s = some c) :
    Legible c.name c.value := by
  obtain ⟨k, v, heq, hk, hv, -, hne, hn, hval⟩ := parse?_ok h
  rw [hn, hval]
  exact {
    nonempty := hne
    noEquals := fun hm => heq (mem_of_mem_trim hm)
    noSemicolon := fun hm => hk (mem_of_mem_trim hm)
    valueNoSemicolon := fun hm => hv (mem_of_mem_trim hm)
    trimmed := trim_trim k
    valueTrimmed := trim_trim v }

end SetCookie

/-- One of some headers sets a pair of name and value. -/
def Sets (headers : List (List UInt8)) (pair : List Char × List Char) : Prop :=
  ∃ header ∈ headers, ∃ c, Jar.setCookie? header = some c ∧ (c.name, c.value) = pair

theorem setCookie?_ok {header : List UInt8} {c : SetCookie} (h : Jar.setCookie? header = some c) :
    header.all Jar.isHeaderByte = true ∧ ∃ s, decode? header = some s ∧
      SetCookie.parse? s = some c := by
  unfold Jar.setCookie? at h
  split at h
  · rename_i hb
    exact ⟨hb, Option.bind_eq_some_iff.1 h⟩
  · cases h

section
variable {headers more : List (List UInt8)} {pair : List Char × List Char}

theorem Sets.mono (h : Sets headers pair) (hs : headers ⊆ more) : Sets more pair := by
  obtain ⟨header, hm, c, hc, he⟩ := h
  exact ⟨header, hs hm, c, hc, he⟩

theorem Sets.legible (h : Sets headers pair) : Legible pair.1 pair.2 := by
  obtain ⟨header, -, c, hc, rfl⟩ := h
  obtain ⟨-, s, -, hp⟩ := setCookie?_ok hc
  exact SetCookie.legible_of_parse? hp

/-- A value that was set by a header can stand in a header itself. -/
theorem Sets.headerBytes (h : Sets headers pair) :
    (utf8 pair.2).all Jar.isHeaderByte = true := by
  obtain ⟨header, -, c, hc, rfl⟩ := h
  obtain ⟨hb, s, hs, hp⟩ := setCookie?_ok hc
  obtain ⟨k, v, -, -, -, hpre, -, -, hv⟩ := SetCookie.parse?_ok hp
  rw [List.all_eq_true] at hb ⊢
  intro b hm
  obtain ⟨x, hx, hbx⟩ := List.mem_flatMap.1 hm
  rw [hv] at hx
  apply hb
  rw [← utf8_of_decode? hs]
  refine List.mem_flatMap.2 ⟨x, hpre.subset ?_, hbx⟩
  exact List.mem_append_right _ (List.mem_cons_of_mem _ (mem_of_mem_trim hx))

end

/-! ## Jars -/

namespace Jar

/-- Each cookie of a jar was set by one of some headers. -/
def From (headers : List (List UInt8)) (jar : Jar) : Prop :=
  ∀ c ∈ jar, Sets headers (c.name, c.value)

section
variable {headers more : List (List UInt8)} {jar : Jar}

theorem From.nil : From headers [] := by
  simp [From]

theorem From.mono (h : jar.From headers) (hs : headers ⊆ more) : jar.From more :=
  fun c hc => (h c hc).mono hs

/-- A jar that lost some of its cookies is still one that headers filled. -/
theorem From.losing (h : jar.From headers) (ended : Cookie → Bool) :
    From headers (jar.losing ended) :=
  fun c hc => h c (List.mem_filter.1 hc).1

theorem mem_put {c d : Cookie} (h : d ∈ jar.put c) : d ∈ jar ∨ d = c := by
  unfold put at h
  split at h
  · obtain ⟨e, he, rfl⟩ := List.mem_map.1 h
    split
    · exact .inr rfl
    · exact .inl he
  · rcases List.mem_append.1 h with h | h
    · exact .inl h
    · exact .inr (List.mem_singleton.1 h)

theorem mem_accept {now : Instant} {u : Url} {s : SetCookie} {d : Cookie}
    (h : d ∈ accept now u jar s) : d ∈ jar ∨ (d.name, d.value) = (s.name, s.value) := by
  unfold accept at h
  split at h
  · exact .inl h
  · rename_i c hc
    unfold SetCookie.from? at hc
    obtain ⟨domain, -, rfl⟩ := Option.map_eq_some_iff.1 hc
    split at h
    · exact .inl (List.mem_filter.1 h).1
    · rcases mem_put h with h | rfl
      · exact .inl h
      · exact .inr rfl

/-- Cookies come into a jar only by headers that set them. -/
theorem From.receive (h : jar.From headers) (now : Instant) (u : Url) (set : List (List UInt8)) :
    (receive now u set jar).From (headers ++ set) := by
  have hfold : ∀ (cookies : List SetCookie) (jar : Jar), jar.From (headers ++ set) →
      (∀ s ∈ cookies, Sets (headers ++ set) (s.name, s.value)) →
      (cookies.foldl (accept now u) jar).From (headers ++ set) := by
    intro cookies
    induction cookies with
    | nil => exact fun _ hj _ => hj
    | cons s cookies ih =>
      intro jar hj hc
      obtain ⟨hs, hr⟩ := List.forall_mem_cons.1 hc
      refine ih _ (fun d hd => ?_) hr
      rcases mem_accept hd with hd | he
      · exact hj d hd
      · rw [he]
        exact hs
  refine hfold _ _ (h.mono (List.subset_append_left _ _)) fun s hs => ?_
  obtain ⟨header, hm, he⟩ := List.mem_filterMap.1 hs
  exact ⟨header, List.mem_append_right _ hm, s, he, rfl⟩

/-- How a jar writes the cookies for a URL. -/
theorem header?_getD (jar : Jar) (u : Url) : (jar.header? u).getD [] =
    utf8 (joinWith [';', ' '] ((jar.cookiesFor u).map Cookie.pair)) := by
  unfold header?
  simp only
  split
  · rename_i he
    exact (List.isEmpty_iff.1 he).symm
  · rfl

/-- The pairs that a jar would send to a URL are those of its cookies for that URL, in order, if all
of these can be told apart in a header. -/
theorem pairs_of_legible {u : Url} (h : ∀ c ∈ jar.cookiesFor u, Legible c.name c.value) :
    ((jar.header? u).map readHeader).getD [] =
      (jar.cookiesFor u).map fun c => (c.name, c.value) := by
  have hlegible : ∀ p ∈ (jar.cookiesFor u).map fun c => (c.name, c.value), Legible p.1 p.2 := by
    intro p hp
    obtain ⟨c, hc, rfl⟩ := List.mem_map.1 hp
    exact h c hc
  have hrender : renderPairs ((jar.cookiesFor u).map fun c => (c.name, c.value)) =
      joinWith [';', ' '] ((jar.cookiesFor u).map Cookie.pair) := by
    rw [renderPairs, List.map_map]
    rfl
  have hread := readHeader_render hlegible
  rw [hrender] at hread
  unfold header?
  simp only
  split
  · rename_i he
    rw [List.isEmpty_iff.1 he] at hread
    rw [← hread]
    rfl
  · exact hread

theorem From.legible (h : jar.From headers) {u : Url} :
    ∀ c ∈ jar.cookiesFor u, Legible c.name c.value :=
  fun c hc => (h c (List.mem_filter.1 hc).1).legible

theorem From.pairs (h : jar.From headers) (u : Url) :
    ((jar.header? u).map readHeader).getD [] =
      (jar.cookiesFor u).map fun c => (c.name, c.value) := pairs_of_legible h.legible

theorem From.sets_of_mem_header (h : jar.From headers) {u : Url} {bytes : List UInt8}
    (hb : jar.header? u = some bytes) : ∀ p ∈ readHeader bytes, Sets headers p := by
  have hp := h.pairs u
  rw [hb] at hp
  have hp : readHeader bytes = (jar.cookiesFor u).map fun c => (c.name, c.value) := hp
  rw [hp]
  intro p hm
  obtain ⟨c, hc, rfl⟩ := List.mem_map.1 hm
  exact h c (List.mem_filter.1 hc).1

end
end Jar
end Rehearsal.Http
