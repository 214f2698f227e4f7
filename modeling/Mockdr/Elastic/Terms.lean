import Mockdr.Builtins
import Mockdr.Elastic.Leaf
import Mockdr.Lib.Except

/-!
# `term` and `terms`

The clauses `term` and `terms` (`utils/es_query.py`). `term` compares a value of the record with the
one that is listed by what kind of value this is (`termEquals`); `terms` compares their texts.

* `OnlyTerm` and `OnlyTerms` are the pairs of a value and a listed value that only one of the two
  clauses accepts, by the kind of the listed value, and `Both` those that both accept.
* `Compared` are the values that `term` comes to: comparing a number with an integer that no float
  holds raises.
* `terms_iff_term_iff`: `terms` is the disjunction of the `term` clauses exactly where the pairs of
  the one kind make up for those of the other.
-/

namespace Mockdr.Elastic

/-- The built-ins of `term`. -/
structure TermPython extends NumberPython where
  /-- an address inside a network, `None` where either is none (`ipaddress`) -/
  inNetwork : String → String → Option Bool

/-- The built-ins on ASCII text and whole numbers, without networks: what the concrete clauses of
    this development compute with. -/
def asciiTermPython : TermPython where
  toNumberPython :=
    { asciiNumberPython with
      str
        | .float q => toString q.num ++ ".0"
        | v => asciiPython.str v }
  inNetwork _ _ := none

variable (py : TermPython)

/-! ## The clauses -/

/-- `float(v)`: nothing where it overflows, and nothing in it where it raises anything else. -/
def floatOf : Json → Option (Option PyFloat)
  | .bool b => some (some (.finite (if b then 1 else 0)))
  | .int n => (py.ofInt n).map some
  | .float q => some (some (.finite q))
  | .str s => some (py.float s)
  | .null | .list _ | .dict _ => some none

/-- `float(v) == float(t)`, false where either raises anything but an overflow. -/
def sameNumber (v t : Json) : Option Bool :=
  match floatOf py v with
  | none => none
  | some none => some false
  | some (some x) =>
    match floatOf py t with
    | none => none
    | some none => some false
    | some (some y) => some (x.eq y)

/-- `_term_equals`, nothing where it raises. -/
def termEquals (v t : Json) : Option Bool :=
  match v, t with
  | .null, _ => some false
  | v, .bool b => some (Json.eq v (.bool b))
  | v, .int n => sameNumber py v (.int n)
  | v, .float q => sameNumber py v (.float q)
  | v, .str s =>
    match if hasChar '/' s then py.inNetwork (py.toStr v) s else none with
    | some inside => some inside
    | none => some (py.toStr v = s)
  | v, t => some (py.toStr v = py.toStr t)

/-- The test of a `term` on the values of a field. -/
def termTest (values : List Json) : Json → Option Bool
  | .null => some values.isEmpty
  | target => values.anyM (termEquals py · target)

/-- `_build_term`: the first member of the body names the field. The test is nothing where it
    raises. -/
def buildTerm : Object → Except SearchError (Rec → Option Bool)
  | [] => .error .crash
  | (field, spec) :: _ =>
    let target := match spec with
      | .dict options => Object.get options "value"
      | spec => spec
    .ok fun record => termTest py (fieldValues py.toPython record field) target

/-! ## Where they differ -/

/-- A value and a listed value have the same text. -/
def SameText (v t : Json) : Prop := py.toStr v = py.toStr t

/-- What a value and a listed value are compared by beside their texts, and how they compare: a
    boolean and a number by what is equal to them, a network by what is inside it. Nothing for a
    listed value that is compared by its text. -/
def byKind (v : Json) : Json → Option (Option Bool)
  | .bool b => some (some (Json.eq v (.bool b)))
  | .int n => some (sameNumber py v (.int n))
  | .float q => some (sameNumber py v (.float q))
  | .str s => if hasChar '/' s then (py.inNetwork (py.toStr v) s).map some else none
  | .null | .list _ | .dict _ => none

/-- A pair that only `term` accepts: a boolean or a number and a value that is equal to it and
    written otherwise, or a network and an address inside it. -/
def OnlyTerm (v t : Json) : Prop :=
  v ≠ .null ∧ byKind py v t = some (some true) ∧ ¬ SameText py v t

/-- A pair that only `terms` accepts: a null and what is written as it is, or a boolean, a number or
    a network and a text that spells it without being equal to it or inside it. -/
def OnlyTerms (v t : Json) : Prop :=
  SameText py v t
      ∧ (v = .null ∨ t = .null ∨ ∃ equal, byKind py v t = some equal ∧ equal ≠ some true)

/-- A pair that both clauses accept. -/
def Both (v t : Json) : Prop := SameText py v t ∧ ¬ OnlyTerms py v t

/-- The values of a field that `term` comes to: no comparison with a value in front of it raises. -/
def Compared (values : List Json) (t v : Json) : Prop :=
  ∃ read rest, values = read ++ v :: rest ∧ ∀ w ∈ read, termEquals py w t ≠ none

variable {py}

/-- `term` compares by the kind of the listed value, and by the texts where this has none. -/
lemma termEquals_eq {v t : Json} (hv : v ≠ .null) :
    termEquals py v t = (byKind py v t).getD (some (decide (py.toStr v = py.toStr t))) := by
  have hstr : ∀ s, termEquals py v (.str s)
      = match if hasChar '/' s then py.inNetwork (py.toStr v) s else none with
        | some inside => some inside
        | none => some (decide (py.toStr v = s)) := by
    intro s
    cases v <;> first | exact absurd rfl hv | rfl
  cases t with
  | str s =>
    rw [hstr, byKind]
    cases hasChar '/' s with
    | false => rfl
    | true =>
      rw [if_pos rfl, if_pos rfl]
      cases py.inNetwork (py.toStr v) s <;> rfl
  | _ => cases v <;> first | exact absurd rfl hv | rfl

/-- `term` accepts a pair that both clauses accept, or that only it accepts. -/
lemma termEquals_iff {v t : Json} (ht : t ≠ .null) :
    termEquals py v t = some true ↔ Both py v t ∨ OnlyTerm py v t := by
  unfold Both OnlyTerms OnlyTerm
  by_cases hv : v = .null
  · subst hv
    have hfalse : termEquals py .null t = some false := by cases t <;> rfl
    simp [hfalse]
  · rw [termEquals_eq hv]
    cases hkind : byKind py v t with
    | none => simp [hv, ht, SameText]
    | some equal =>
      by_cases htext : SameText py v t
      · by_cases hequal : equal = some true <;> simp [hv, ht, htext, hequal]
      · simp [hv, htext]

variable {record : Rec} {field : String} {values : List Json}

/-- The values that `term` comes to are values of the field. -/
lemma Compared.mem {v t : Json} (h : Compared py values t v) : v ∈ values := by
  obtain ⟨read, rest, rfl, -⟩ := h
  exact List.mem_append_right read List.mem_cons_self

/-- `term` accepts the values that it comes to and accepts, and a field without values where it is
    null. -/
lemma termTest_iff {t : Json} :
    termTest py values t = some true
      ↔ (t = .null ∧ values = []) ∨ t ≠ .null ∧ ∃ v, Compared py values t v
          ∧ (Both py v t ∨ OnlyTerm py v t) := by
  by_cases ht : t = .null
  · subst ht
    simp [termTest]
  · have htest : termTest py values t = values.anyM (termEquals py · t) := by
      cases t <;> first | exact absurd rfl ht | rfl
    rw [htest, anyM_eq_some_true_iff]
    simp only [ht, false_and, false_or, not_false_eq_true, true_and, ne_eq]
    constructor
    · rintro ⟨read, v, rest, rfl, hread, hv⟩
      exact ⟨v, ⟨read, rest, rfl, hread⟩, (termEquals_iff ht).1 hv⟩
    · rintro ⟨v, ⟨read, rest, rfl, hread⟩, hv⟩
      exact ⟨read, v, rest, rfl, hread, (termEquals_iff ht).2 hv⟩

variable (py) in
/-- `terms` is the disjunction of the `term` clauses of what is listed. -/
def TermsLaw (field : String) (listed : List Json) (record : Rec) : Prop :=
  ∀ p, buildTerms py.toPython none [(field, .list listed)] = .ok (0, p) →
    (p record = true
      ↔ ∃ t ∈ listed, ∃ q, buildTerm py [(field, t)] = .ok q ∧ q record = some true)

variable (py) in
/-- Some value of the field and some listed value are accepted by both clauses. -/
def SomeBoth (values listed : List Json) : Prop :=
  ∃ t ∈ listed, ∃ v, Compared py values t v ∧ Both py v t

variable (py) in
/-- Something is accepted by `term` only: a pair, or a field without values where null is listed. -/
def SomeOnlyTerm (values listed : List Json) : Prop :=
  (values = [] ∧ ∃ t ∈ listed, t = .null)
    ∨ ∃ t ∈ listed, ∃ v, Compared py values t v ∧ OnlyTerm py v t

variable (py) in
/-- Something is accepted by `terms` only: a pair, or a text that `term` does not come to. -/
def SomeOnlyTerms (values listed : List Json) : Prop :=
  ∃ t ∈ listed, ∃ v ∈ values,
    OnlyTerms py v t ∨ SameText py v t ∧ ¬ Compared py values t v

/-- `terms` accepts what both clauses accept, and what only it accepts. -/
lemma exists_sameText_iff {listed : List Json} :
    (∃ t ∈ listed, ∃ v ∈ values, SameText py v t)
      ↔ SomeBoth py values listed ∨ SomeOnlyTerms py values listed := by
  constructor
  · rintro ⟨t, ht, v, hv, htext⟩
    by_cases honly : OnlyTerms py v t
    · exact .inr ⟨t, ht, v, hv, .inl honly⟩
    · by_cases hcompared : Compared py values t v
      · exact .inl ⟨t, ht, v, hcompared, htext, honly⟩
      · exact .inr ⟨t, ht, v, hv, .inr ⟨htext, hcompared⟩⟩
  · rintro (⟨t, ht, v, hcompared, hboth⟩ | ⟨t, ht, v, hv, honly | hrest⟩)
    · exact ⟨t, ht, v, hcompared.mem, hboth.1⟩
    · exact ⟨t, ht, v, hv, honly.1⟩
    · exact ⟨t, ht, v, hv, hrest.1⟩

/-- `term` accepts what both clauses accept, and what only it accepts. -/
lemma exists_termTest_iff {listed : List Json} :
    (∃ t ∈ listed, termTest py values t = some true)
      ↔ SomeBoth py values listed ∨ SomeOnlyTerm py values listed := by
  constructor
  · rintro ⟨t, ht, haccepts⟩
    rcases termTest_iff.1 haccepts with ⟨hnull, hvalues⟩ | ⟨-, v, hcompared, hboth | honly⟩
    · exact .inr (.inl ⟨hvalues, t, ht, hnull⟩)
    · exact .inl ⟨t, ht, v, hcompared, hboth⟩
    · exact .inr (.inr ⟨t, ht, v, hcompared, honly⟩)
  · rintro (⟨t, ht, v, hcompared, hboth⟩ | ⟨hvalues, t, ht, hnull⟩ | ⟨t, ht, v, hcompared, honly⟩)
    · have hne : t ≠ .null := fun h => hboth.2 ⟨hboth.1, .inr (.inl h)⟩
      exact ⟨t, ht, termTest_iff.2 (.inr ⟨hne, v, hcompared, .inl hboth⟩)⟩
    · exact ⟨t, ht, termTest_iff.2 (.inl ⟨hnull, hvalues⟩)⟩
    · have hne : t ≠ .null := by
        rintro rfl
        exact nomatch honly.2.1
      exact ⟨t, ht, termTest_iff.2 (.inr ⟨hne, v, hcompared, .inr honly⟩)⟩

/-- A `term` clause tests the values of its field. -/
lemma buildTerm_eq {t : Json} (ht : t.isDict = false) :
    buildTerm py [(field, t)]
      = .ok fun record => termTest py (fieldValues py.toPython record field) t := by
  cases t with
  | dict o => exact nomatch ht
  | _ => rfl

/-- A `terms` clause accepts a record with a value whose text is listed. -/
lemma buildTerms_iff {listed : List Json} {p : Pred}
    (hp : buildTerms py.toPython none [(field, .list listed)] = .ok (0, p)) :
    p record = true
      ↔ ∃ t ∈ listed, ∃ v ∈ fieldValues py.toPython record field, SameText py v t := by
  have hbuild : buildTerms py.toPython none [(field, .list listed)]
      = .ok (0, fun record => (fieldValues py.toPython record field).any fun v =>
          (listed.map py.toStr).contains (py.toStr v)) := rfl
  obtain ⟨-, rfl⟩ := Prod.mk.inj (Except.ok.inj (hbuild.symm.trans hp))
  simp only [List.any_eq_true, List.contains_iff_mem, List.mem_map]
  constructor
  · rintro ⟨v, hv, t, ht, htext⟩
    exact ⟨t, ht, v, hv, htext.symm⟩
  · rintro ⟨t, ht, v, hv, htext⟩
    exact ⟨v, hv, t, ht, htext.symm⟩

lemma termsLaw_iff {listed : List Json} (hlisted : ∀ t ∈ listed, t.isDict = false) :
    TermsLaw py field listed record
      ↔ ((∃ t ∈ listed, ∃ v ∈ fieldValues py.toPython record field, SameText py v t)
        ↔ ∃ t ∈ listed, termTest py (fieldValues py.toPython record field) t = some true) := by
  have hterm : (∃ t ∈ listed, ∃ q, buildTerm py [(field, t)] = .ok q ∧ q record = some true)
      ↔ ∃ t ∈ listed, termTest py (fieldValues py.toPython record field) t = some true := by
    constructor
    · rintro ⟨t, ht, q, hq, h⟩
      rw [buildTerm_eq (hlisted t ht)] at hq
      obtain rfl := Except.ok.inj hq
      exact ⟨t, ht, h⟩
    · rintro ⟨t, ht, h⟩
      exact ⟨t, ht, _, buildTerm_eq (hlisted t ht), h⟩
  constructor
  · intro h
    exact ((buildTerms_iff rfl).symm.trans (h _ rfl)).trans hterm
  · intro h p hp
    exact ((buildTerms_iff hp).trans h).trans hterm.symm

/-- `terms` is the disjunction of the `term` clauses exactly where some pair is accepted by both, or
    there is something that only the one accepts where there is something that only the other
    accepts. -/
theorem terms_iff_term_iff (py : TermPython) (field : String) (listed : List Json) (record : Rec)
    (hlisted : ∀ t ∈ listed, t.isDict = false) :
    TermsLaw py field listed record
      ↔ SomeBoth py (fieldValues py.toPython record field) listed
        ∨ (SomeOnlyTerm py (fieldValues py.toPython record field) listed
          ↔ SomeOnlyTerms py (fieldValues py.toPython record field) listed) := by
  rw [termsLaw_iff hlisted, exists_sameText_iff, exists_termTest_iff]
  generalize SomeBoth py _ listed = both
  generalize SomeOnlyTerm py _ listed = onlyTerm
  generalize SomeOnlyTerms py _ listed = onlyTerms
  tauto

/-- A port that is listed as it is written. -/
theorem terms_iff_term_port :
    TermsLaw asciiTermPython "port" [.int 80, .str "http"] ⟨none, [("port", .int 80)]⟩ := by
  refine (terms_iff_term_iff _ _ _ _ ?_).2 (.inl ?_)
  · decide
  · refine ⟨.int 80, List.mem_cons_self, .int 80, ⟨[], [], rfl, fun w hw => nomatch hw⟩, rfl, ?_⟩
    rintro ⟨-, h | h | ⟨equal, hkind, hne⟩⟩
    · exact nomatch h
    · exact nomatch h
    · obtain rfl := Option.some.inj hkind
      exact hne (by decide +kernel)

/-- A port that is listed as a decimal is accepted by `term` and not by `terms`. -/
theorem terms_misses_decimal :
    (∃ p, buildTerms asciiTermPython.toPython none [("port", .list [.float 80])] = .ok (0, p)
        ∧ p ⟨none, [("port", .int 80)]⟩ = false)
      ∧ (∃ q, buildTerm asciiTermPython [("port", .float 80)] = .ok q
        ∧ q ⟨none, [("port", .int 80)]⟩ = some true)
      ∧ ¬ TermsLaw asciiTermPython "port" [.float 80] ⟨none, [("port", .int 80)]⟩ := by
  have hterm : ∃ q, buildTerm asciiTermPython [("port", .float 80)] = .ok q
      ∧ q ⟨none, [("port", .int 80)]⟩ = some true := ⟨_, rfl, by decide +kernel⟩
  have hterms : ∃ p, buildTerms asciiTermPython.toPython none [("port", .list [.float 80])]
      = .ok (0, p) ∧ p ⟨none, [("port", .int 80)]⟩ = false := ⟨_, rfl, by decide +kernel⟩
  refine ⟨hterms, hterm, fun hlaw => ?_⟩
  obtain ⟨p, hp, hrefused⟩ := hterms
  have haccepted := (hlaw p hp).2 ⟨_, List.mem_cons_self, hterm⟩
  exact absurd (haccepted.symm.trans hrefused) Bool.noConfusion

end Mockdr.Elastic
