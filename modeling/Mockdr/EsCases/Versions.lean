import Mathlib
import Mockdr.EsCases.Cases
import Mockdr.Lib.Run
import Mockdr.Numerals

/-!
# The versions of a case

A client reads a case with its version and later updates it with the version that it read. The
update should be accepted exactly when nobody wrote the case in between.

* `readToken_nextVersion`: the sequence number of a token is one more than that of the token before
  it, so a version that an update leaves behind is above all versions the case had (`rank`).
* A comment that is added or deleted is a write of the case (`writes`) and leaves the version.
  `versions_detect` is the law for the runs in which no comment is added to the case or deleted.
-/

namespace Mockdr

namespace EsCases

variable {py : CasePython}

/-! ## Tokens -/

lemma stripBrackets_token {number : List Char} (rest : List Char) (hne : number ≠ [])
    (h : ∀ c ∈ number, c ∉ ['[', ']']) :
    ∃ left, stripBrackets ('[' :: (number ++ ',' :: rest)) = number ++ ',' :: left := by
  have hfront : ('[' :: (number ++ ',' :: rest)).dropWhile (· ∈ ['[', ']'])
      = number ++ ',' :: rest := by
    rw [List.dropWhile_cons_of_pos (by decide)]
    obtain ⟨c, cs, rfl⟩ := List.exists_cons_of_ne_nil hne
    rw [List.cons_append, List.dropWhile_cons_of_neg (by simpa using h c List.mem_cons_self)]
  have hstop : (',' :: number.reverse).dropWhile (· ∈ ['[', ']']) = ',' :: number.reverse :=
    List.dropWhile_cons_of_neg (by decide)
  rw [stripBrackets, hfront, List.reverse_append, List.reverse_cons, List.append_assoc,
    List.singleton_append, List.dropWhile_append]
  split
  · refine ⟨[], ?_⟩
    rw [hstop, List.reverse_cons, List.reverse_reverse]
  · refine ⟨(rest.reverse.dropWhile (· ∈ ['[', ']'])).reverse, ?_⟩
    rw [List.reverse_append, List.reverse_cons, List.reverse_reverse, List.append_assoc,
      List.singleton_append]

/-- A token is read as the number it was written with. -/
lemma readToken_encodeToken {m : Int} (primary : String)
    (h : (Nat.toDigits 10 m.natAbs).length ≤ 4300) :
    ∃ rest, readToken py (encodeToken ("[" ++ toString m ++ "," ++ primary ++ "]"))
      = some (m, rest) := by
  have hchars : ∀ c ∈ (toString m).toList, c ∉ ['[', ']'] ∧ c ≠ ',' := by
    intro c hc
    rcases mem_toString hc with rfl | hc
    · decide
    · refine ⟨?_, ?_⟩
      · intro hmem
        rcases List.mem_pair.1 hmem with rfl | rfl
        · exact absurd hc (by decide)
        · exact absurd hc (by decide)
      · rintro rfl
        exact absurd hc (by decide)
  have hne : (toString m).toList ≠ [] := by
    rw [toList_toString]
    exact List.append_ne_nil_of_right_ne_nil _ Nat.toDigits_ne_nil
  have htext : ("[" ++ toString m ++ "," ++ primary ++ "]").toList
      = '[' :: ((toString m).toList ++ ',' :: (primary.toList ++ [']'])) := by
    simp [String.toList_append]
  obtain ⟨left, hleft⟩ := stripBrackets_token (primary.toList ++ [']']) hne
    fun c hc => (hchars c hc).1
  have hbefore : ((toString m).toList ++ ',' :: left).takeWhile (· ≠ ',')
      = (toString m).toList := by
    rw [List.takeWhile_append_of_pos fun c hc => by simpa using (hchars c hc).2,
      List.takeWhile_cons_of_neg (by decide), List.append_nil]
  generalize "[" ++ toString m ++ "," ++ primary ++ "]" = token at htext
  refine ⟨strip (partition ',' (String.ofList ((toString m).toList ++ ',' :: left))).2, ?_⟩
  have hutf : String.fromUTF8? ⟨token.toByteArray.data.toList.toArray⟩ = some token := by
    rw [Array.toArray_toList]
    exact dif_pos token.isValidUTF8
  have hnumber : (partition ',' (String.ofList ((toString m).toList ++ ',' :: left))).1
      = toString m := by
    rw [partition, String.toList_ofList, hbefore, String.ofList_toList]
  rw [readToken, encodeToken, Dev.b64decode_encode, Option.bind_eq_bind, Option.bind_some, hutf,
    Option.bind_eq_bind, Option.bind_some, htext, hleft]
  simp only [hnumber, parseInt_toString py.digit_ascii h, Option.bind_eq_bind, Option.bind_some]

/-- The sequence number of a version; one that cannot be read is below all that can. -/
def rank (py : CasePython) (version : String) : WithBot Int :=
  match readToken py version with
  | some (n, _) => (n : Int)
  | none => ⊥

/-- The number of the next version can be written. -/
def Room (py : CasePython) (version : String) : Prop :=
  ∀ n rest, readToken py version = some (n, rest) → (Nat.toDigits 10 (n + 1).natAbs).length ≤ 4300

/-- The next version is above the one before. -/
lemma rank_nextVersion {version : String} (h : Room py version) :
    rank py version < rank py (nextVersion py version) := by
  have hrank : ∀ (m : Int) (primary : String), (Nat.toDigits 10 m.natAbs).length ≤ 4300 →
      rank py (encodeToken ("[" ++ toString m ++ "," ++ primary ++ "]")) = (m : WithBot Int) := by
    intro m primary hm
    obtain ⟨rest, hrest⟩ := readToken_encodeToken primary hm
    rw [rank, hrest]
  rw [nextVersion]
  cases hread : readToken py version with
  | none =>
    have hone : rank py (encodeToken "[1,1]") = ((1 : Int) : WithBot Int) :=
      hrank 1 "1" (by decide)
    rw [Option.bind_none, Option.getD_none, hone, rank, hread]
    exact WithBot.bot_lt_coe 1
  | some p =>
    obtain ⟨n, rest⟩ := p
    have hm := h n rest hread
    rw [Option.bind_some]
    simp only [writeToken, if_pos hm, Option.getD_some]
    rw [hrank _ _ hm, rank, hread]
    exact WithBot.coe_lt_coe.2 (Int.lt_succ n)

/-! ## Writes of one case -/

/-- The version of a case, if it is there. -/
def versionOf (s : Store) (c : String) : Option String := (s.cases.get c).map EsCase.version

/-- The case that a write is about. -/
def writtenCase : Action → Json
  | .update (.dict patch) _ => Object.get patch "id"
  | .addComment id _ _ _ => .str id
  | .deleteComment id _ _ => .str id
  | _ => .null

/-- A request writes a case: it updates it, or adds a comment to it or deletes one of it. -/
def Writes (py : CasePython) (c : String) (s : Store) (a : Action) : Prop :=
  (handle py s a).2 = .ok ∧ writtenCase a = .str c

/-- A request makes a case. -/
def Creates (c : String) (a : Action) : Prop := ∃ now data, a = .create c now data

variable {s : Store} {a : Action} {c : String}

/-- What an entry of a `PATCH` does where it is accepted. -/
lemma updateEntry_ok {patch : Json} {now : String} (h : (updateEntry py patch now s).2 = .ok) :
    ∃ entry id case changes, patch = .dict entry ∧ Object.get entry "id" = .str id
      ∧ s.cases.get id = some case
      ∧ (updateEntry py patch now s).1
        = { s with cases := s.cases.set id (case.update py now changes) } := by
  revert h
  unfold updateEntry
  split
  · next entry =>
    dsimp only
    split_ifs
    · rintro ⟨⟩
    · rintro ⟨⟩
    · split
      · rintro ⟨⟩
      · next id case hlookup =>
        split_ifs
        · rintro ⟨⟩
        · intro _
          cases hid : Object.get entry "id" with
          | str given =>
            rw [hid, lookup, Option.map_eq_some_iff] at hlookup
            obtain ⟨found, hfound, heq⟩ := hlookup
            cases heq
            exact ⟨entry, id, case, _, rfl, hid, hfound, rfl⟩
          | _ =>
            rw [hid] at hlookup
            cases hlookup
  · rintro ⟨⟩

/-- An entry of a `PATCH` that is refused leaves the store as it is. -/
lemma updateEntry_refused {patch : Json} {now : String} (h : (updateEntry py patch now s).2 ≠ .ok) :
    (updateEntry py patch now s).1 = s := by
  revert h
  unfold updateEntry
  split
  · dsimp only
    split_ifs
    · exact fun _ => rfl
    · exact fun _ => rfl
    · split
      · exact fun _ => rfl
      · split_ifs
        · exact fun _ => rfl
        · exact fun h => absurd rfl h
  · exact fun _ => rfl

lemma versionOf_set_self {cases : Dict String EsCase} {comments : Dict String EsCaseComment}
    {case : EsCase} : versionOf ⟨cases.set c case, comments⟩ c = some case.version := by
  rw [versionOf, Dict.get_set_self, Option.map_some]

lemma versionOf_set_of_ne {cases : Dict String EsCase} {comments : Dict String EsCaseComment}
    {case : EsCase} {id : String} (h : c ≠ id) :
    versionOf ⟨cases.set id case, comments⟩ c = (cases.get c).map EsCase.version := by
  rw [versionOf, Dict.get_set_ne _ _ h]

/-- What a request does to the version of a case: an update that is accepted takes the next one, the
    case is made or deleted, or the version stays. -/
lemma versionOf_step (py : CasePython) (c : String) (s : Store) (a : Action) :
    (∃ patch now v, a = .update patch now ∧ Writes py c s a ∧ versionOf s c = some v
        ∧ versionOf (step py s a) c = some (nextVersion py v))
      ∨ Creates c a
      ∨ a = .delete c ∧ versionOf (step py s a) c = none
      ∨ versionOf (step py s a) c = versionOf s c
        ∧ (Writes py c s a → ∀ patch now, a ≠ .update patch now) := by
  cases a with
  | create id now data =>
    by_cases h : c = id
    · subst h
      exact .inr (.inl ⟨now, data, rfl⟩)
    · exact .inr (.inr (.inr ⟨versionOf_set_of_ne h, fun _ => nofun⟩))
  | update patch now =>
    by_cases hok : (updateEntry py patch now s).2 = .ok
    · obtain ⟨entry, id, case, changes, rfl, hid, hcase, hstore⟩ := updateEntry_ok hok
      have hstep : step py s (.update (.dict entry) now)
          = { s with cases := s.cases.set id (case.update py now changes) } := hstore
      by_cases h : c = id
      · subst h
        refine .inl ⟨_, now, case.version, rfl, ⟨hok, hid⟩, ?_, ?_⟩
        · rw [versionOf, hcase, Option.map_some]
        · rw [hstep, versionOf_set_self]
          rfl
      · refine .inr (.inr (.inr ⟨?_, fun hw => ?_⟩))
        · rw [hstep]
          exact versionOf_set_of_ne h
        · exact absurd (Json.str.inj (hid.symm.trans hw.2)).symm h
    · have hstep : step py s (.update patch now) = s := updateEntry_refused hok
      exact .inr (.inr (.inr ⟨by rw [hstep], fun hw => absurd hw.1 hok⟩))
  | delete id =>
    rw [step, handle]
    split
    · by_cases h : c = id
      · subst h
        refine .inr (.inr (.inl ⟨rfl, ?_⟩))
        rw [versionOf, deleteCase, Dict.get_erase_self, Option.map_none]
      · refine .inr (.inr (.inr ⟨?_, fun _ => nofun⟩))
        rw [versionOf, deleteCase, Dict.get_erase_ne _ h, versionOf]
    · exact .inr (.inr (.inr ⟨rfl, fun _ => nofun⟩))
  | addComment id commentId now data =>
    refine .inr (.inr (.inr ⟨?_, fun _ => nofun⟩))
    rw [step, handle]
    split
    · next case hcase =>
      by_cases h : c = id
      · subst h
        rw [addComment, versionOf_set_self, versionOf, hcase]
        rfl
      · exact versionOf_set_of_ne h
    · rfl
  | updateComment id now body =>
    refine .inr (.inr (.inr ⟨?_, fun _ => nofun⟩))
    rw [step, handle]
    dsimp only
    split
    · rfl
    · split_ifs
      · rfl
      · split
        · rfl
        · split_ifs
          · rfl
          · rfl
          · rfl
  | deleteComment id commentId now =>
    refine .inr (.inr (.inr ⟨?_, fun _ => nofun⟩))
    rw [step, handle]
    split
    · next case comment hcase hcomment =>
      split_ifs
      · rfl
      · by_cases h : c = id
        · subst h
          rw [deleteComment, versionOf_set_self, versionOf, hcase]
          rfl
        · exact versionOf_set_of_ne h
    · rfl

/-! ## Runs -/

/-- A `PATCH` is a run of the entries up to the first that is refused. -/
lemma updateCases_eq_runFrom (py : CasePython) (patches : List (Json × String)) (s : Store) :
    ∃ tried, tried <+: patches ∧ (updateCases py patches s).1
      = runFrom (step py) s (tried.map fun p => .update p.1 p.2) := by
  induction patches generalizing s with
  | nil => exact ⟨[], List.prefix_rfl, rfl⟩
  | cons p patches ih =>
    obtain ⟨patch, now⟩ := p
    have hstep : step py s (.update patch now) = (updateEntry py patch now s).1 := rfl
    rw [updateCases]
    split
    · next s' hentry =>
      rw [hentry] at hstep
      obtain ⟨tried, hprefix, hrun⟩ := ih s'
      refine ⟨(patch, now) :: tried, List.cons_prefix_cons.2 ⟨rfl, hprefix⟩, ?_⟩
      rw [hrun, List.map_cons, runFrom_cons, hstep]
    · refine ⟨[(patch, now)], List.cons_prefix_cons.2 ⟨rfl, List.nil_prefix⟩, ?_⟩
      rw [List.map_cons, List.map_nil, runFrom_cons, runFrom_nil, hstep]

/-- The ids that are drawn for cases are new: no case had them before. -/
def NewIds (py : CasePython) (s : Store) (as : List Action) : Prop :=
  ∀ pre id now data post, as = pre ++ .create id now data :: post →
    ∀ pre', pre' <+: pre → versionOf (runFrom (step py) s pre') id = none

/-- A write of the case is an update, of a version whose number is not the last one. -/
def Guarded (py : CasePython) (c : String) (s : Store) (a : Action) : Prop :=
  Writes py c s a → (∃ patch now, a = .update patch now)
    ∧ ∀ v, versionOf s c = some v → Room py v

/-- What a guarded request leaves of a case that nobody makes: a version that is not below the one
    before, and above it where the case was written. -/
lemma rank_step (hcreate : ¬ Creates c a) (h : Guarded py c s a) {v' : String}
    (hv' : versionOf (step py s a) c = some v') :
    ∃ v, versionOf s c = some v ∧ rank py v ≤ rank py v'
      ∧ (Writes py c s a → rank py v < rank py v') := by
  rcases versionOf_step py c s a with ⟨patch, now, v, rfl, hw, hv, hnext⟩ | hmade
    | ⟨-, hgone⟩ | ⟨hsame, hno⟩
  · rw [hnext] at hv'
    cases hv'
    have hlt := rank_nextVersion ((h hw).2 v hv)
    exact ⟨v, hv, hlt.le, fun _ => hlt⟩
  · exact absurd hmade hcreate
  · rw [hgone] at hv'
    cases hv'
  · rw [hsame] at hv'
    refine ⟨v', hv', le_refl _, fun hw => ?_⟩
    obtain ⟨⟨patch, now, ha⟩, -⟩ := h hw
    exact absurd ha (hno hw patch now)

lemma rank_run {as : List Action} (hcreate : ∀ a ∈ as, ¬ Creates c a)
    (h : Along (step py) (Guarded py c) s as) {v' : String}
    (hv' : versionOf (runFrom (step py) s as) c = some v') :
    ∃ v, versionOf s c = some v ∧ rank py v ≤ rank py v' := by
  induction as generalizing s with
  | nil => exact ⟨v', hv', le_refl _⟩
  | cons a as ih =>
    obtain ⟨w, hw, hle⟩ := ih (fun b hb => hcreate b (List.mem_cons_of_mem a hb)) h.2 hv'
    obtain ⟨v, hv, hle', -⟩ := rank_step (hcreate a List.mem_cons_self) h.1 hw
    exact ⟨v, hv, hle'.trans hle⟩

lemma NewIds.not_creates {as pre mid post : List Action} {v : String} (hids : NewIds py s as)
    (has : as = pre ++ mid ++ post) (hv : versionOf (runFrom (step py) s pre) c = some v) :
    ∀ a ∈ mid, ¬ Creates c a := by
  rintro a ha ⟨now, data, rfl⟩
  obtain ⟨before, after, rfl⟩ := List.append_of_mem ha
  have hnone := hids (pre ++ before) c now data (after ++ post) (by simp [has]) pre
    (List.prefix_append pre before)
  rw [hnone] at hv
  cases hv

/-- A guarded write finds the case there and leaves the next version of it. -/
lemma Guarded.next (h : Guarded py c s a) (hw : Writes py c s a) :
    ∃ v, versionOf s c = some v ∧ versionOf (step py s a) c = some (nextVersion py v)
      ∧ rank py v < rank py (nextVersion py v) := by
  obtain ⟨⟨patch, now, rfl⟩, hroom⟩ := h hw
  rcases versionOf_step py c s (.update patch now) with
    ⟨_, _, v, -, -, hv, hnext⟩ | ⟨_, _, ⟨⟩⟩ | ⟨⟨⟩, -⟩ | ⟨-, hno⟩
  · exact ⟨v, hv, hnext, rank_nextVersion (hroom v hv)⟩
  · exact absurd rfl (hno hw patch now)

lemma rank_lt_of_writes {as pre mid post : List Action} {v v' : String} (hids : NewIds py s as)
    (h : Along (step py) (Guarded py c) s as) (has : as = pre ++ mid ++ a :: post)
    (hv : versionOf (runFrom (step py) s pre) c = some v)
    (hw : Writes py c (runFrom (step py) s (pre ++ mid)) a)
    (hv' : versionOf (runFrom (step py) s (pre ++ mid ++ [a])) c = some v') :
    rank py v < rank py v' := by
  rw [has, Along.append_iff, Along.append_iff] at h
  obtain ⟨⟨-, hmid⟩, hguard, -⟩ := h
  obtain ⟨w, hwv, hnext, hlt⟩ := hguard.next hw
  rw [runFrom_append, runFrom_cons, runFrom_nil, hnext] at hv'
  cases hv'
  rw [runFrom_append] at hwv
  obtain ⟨u, hu, hle⟩ := rank_run (hids.not_creates has hv) hmid hwv
  rw [hv] at hu
  cases hu
  exact lt_of_le_of_lt hle hlt

/-- An entry of a `PATCH` names a case with a version. -/
structure Carries (patch : Json) (c v : String) : Prop where
  entry : ∃ members, patch = .dict members ∧ Object.get members "id" = .str c
    ∧ Object.get members "version" = .str v
  named : c ≠ ""
  version : v ≠ ""

lemma Carries.respond {patch : Json} {now v w : String} (h : Carries patch c v)
    (hw : versionOf s c = some w) :
    (handle py s (.update patch now)).2 = if v = w then .ok else .conflict := by
  obtain ⟨⟨members, rfl, hid, hversion⟩, hc, hv⟩ := h
  rw [versionOf, Option.map_eq_some_iff] at hw
  obtain ⟨case, hcase, rfl⟩ := hw
  have hlookup : lookup s.cases (.str c) = some (c, case) := by
    rw [lookup, hcase, Option.map_some]
  have htruthy : (!(Json.str c).truthy || !(Json.str v).truthy) = false := by
    simp [Json.truthy, hc, hv]
  rw [handle, updateEntry]
  simp only [hid, hversion, htruthy, hlookup, hashable, differs, Bool.false_eq_true, if_false,
    Bool.not_true]
  by_cases heq : v = case.version
  · rw [if_pos heq, if_neg (by simp [heq])]
  · rw [if_neg heq, if_pos (by simp [heq])]

/-- In a run in which the case is written by updates only, and not beyond the last number that can
    be written, every write leaves a version that the case never had; an update with a version that
    was read before another write is in conflict, and one with the current version is accepted. -/
theorem versions_detect (py : CasePython) (c : String) {s : Store} {as : List Action}
    (hids : NewIds py s as) (h : Along (step py) (Guarded py c) s as) :
    (∀ pre a post, as = pre ++ a :: post → Writes py c (runFrom (step py) s pre) a →
      ∃ v, versionOf (runFrom (step py) s (pre ++ [a])) c = some v
        ∧ ∀ pre', pre' <+: pre → versionOf (runFrom (step py) s pre') c ≠ some v)
    ∧ (∀ pre patch now post v, as = pre ++ .update patch now :: post → Carries patch c v →
      versionOf (runFrom (step py) s pre) c = some v →
        (handle py (runFrom (step py) s pre) (.update patch now)).2 = .ok)
    ∧ (∀ read mid a later patch now post v,
      as = read ++ mid ++ a :: later ++ .update patch now :: post → Carries patch c v →
      versionOf (runFrom (step py) s read) c = some v →
      Writes py c (runFrom (step py) s (read ++ mid)) a →
      (versionOf (runFrom (step py) s (read ++ mid ++ a :: later)) c).isSome →
        (handle py (runFrom (step py) s (read ++ mid ++ a :: later)) (.update patch now)).2
          = .conflict) := by
  refine ⟨?_, ?_, ?_⟩
  · rintro pre a post rfl hw
    obtain ⟨-, hguard, -⟩ := Along.append_iff.1 h
    obtain ⟨v, hv, hnext, -⟩ := hguard.next hw
    have hafter : versionOf (runFrom (step py) s (pre ++ [a])) c = some (nextVersion py v) := by
      rw [runFrom_append, runFrom_cons, runFrom_nil, hnext]
    refine ⟨nextVersion py v, hafter, ?_⟩
    rintro pre' ⟨mid, rfl⟩ hold
    exact lt_irrefl _ (rank_lt_of_writes hids h rfl hold hw hafter)
  · intro pre patch now post v _ hcarries hv
    rw [hcarries.respond hv, if_pos rfl]
  · intro read mid a later patch now post v has hcarries hread hw hsome
    obtain ⟨w, hw'⟩ := Option.isSome_iff_exists.1 hsome
    rw [hcarries.respond hw', if_neg]
    rintro rfl
    -- the case is there right after the write, and from there its version goes up
    have halong := h
    rw [has, Along.append_iff, Along.append_iff] at halong
    obtain ⟨⟨-, hguard, hlater⟩, -⟩ := halong
    obtain ⟨u, -, hnext, -⟩ := hguard.next hw
    have hafter : versionOf (runFrom (step py) s (read ++ mid ++ [a])) c
        = some (nextVersion py u) := by
      rw [runFrom_append, runFrom_cons, runFrom_nil, hnext]
    have hwrite : as = read ++ mid ++ a :: (later ++ .update patch now :: post) := by simp [has]
    have hlt := rank_lt_of_writes hids h hwrite hread hw hafter
    have hrest : as = (read ++ mid ++ [a]) ++ later ++ .update patch now :: post := by simp [has]
    have hcreates := hids.not_creates hrest hafter
    rw [runFrom_append, runFrom_cons] at hw'
    obtain ⟨x, hx, hle⟩ := rank_run hcreates hlater hw'
    rw [hnext] at hx
    cases hx
    exact absurd (lt_of_lt_of_le hlt hle) (lt_irrefl _)

/-- A store with one case, which was not written since it was made. -/
def oneCase : Store where
  cases := Dict.empty.set "1" ⟨initialVersion, 0, []⟩
  comments := .empty

/-- An update of that case with the version it starts with. -/
def retitled : Action :=
  .update (.dict [("id", .str "1"), ("version", .str initialVersion), ("title", .str "t")]) "now"

/-- The second of two such updates is in conflict. -/
theorem versions_detect_twice :
    (handle asciiCasePython (runFrom (step asciiCasePython) oneCase [retitled]) retitled).2
      = .conflict := by
  have hids : NewIds asciiCasePython oneCase [retitled, retitled] := by
    intro pre id now data post h
    have hmem : Action.create id now data ∈ [retitled, retitled] := by
      rw [h]
      exact List.mem_append_right _ List.mem_cons_self
    simp [retitled] at hmem
  have hroom : Room asciiCasePython initialVersion := by
    intro n rest h
    have hread : readToken asciiCasePython initialVersion = some (1, "1") := by decide
    rw [hread] at h
    cases h
    decide
  have hfirst : Guarded asciiCasePython "1" oneCase retitled := by
    intro _
    refine ⟨⟨_, _, rfl⟩, ?_⟩
    rintro v ⟨⟩
    exact hroom
  have hsecond : Guarded asciiCasePython "1" (step asciiCasePython oneCase retitled) retitled :=
    fun hw => absurd hw.1 (by decide)
  exact (versions_detect asciiCasePython "1" hids ⟨hfirst, hsecond, trivial⟩).2.2 [] [] retitled []
    _ "now" [] initialVersion rfl ⟨⟨_, rfl, rfl, rfl⟩, by decide, by decide⟩ rfl
    ⟨by decide, rfl⟩ (by decide)

/-- A comment is added to a case: the version stays, and an update with the version that was read
    before is accepted. -/
theorem comment_not_detected :
    versionOf oneCase "1" = some initialVersion
    ∧ Writes asciiCasePython "1" oneCase (.addComment "1" "2" "now" [])
    ∧ (handle asciiCasePython
        (runFrom (step asciiCasePython) oneCase [.addComment "1" "2" "now" []]) retitled).2 = .ok :=
  ⟨rfl, ⟨by decide, rfl⟩, by decide⟩

end EsCases

end Mockdr
