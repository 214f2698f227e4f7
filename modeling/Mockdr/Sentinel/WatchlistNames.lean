import Mathlib.Data.List.Find
import Mockdr.Lib.Except
import Mockdr.Lib.Run
import Mockdr.Sentinel.Watchlists

/-!
# The names of watchlists and of their items

Names that are equal up to case name the same resource.

* `caseless` finds watchlists and items up to case; `Faithful` says that along a run every request
  is answered and carried out as with it, and that no two names in a list are equal up to case.
* `faithful_iff`: watchlists are found so, items by the same name only. A run is faithful exactly
  when no request for an item finds one there under another spelling (`OneSpelling`).
-/

namespace Mockdr

namespace Watchlists

variable (casefold : String → String)

/-- Watchlists and items are found up to case. -/
def caseless : Addressing where
  watchlist s id := s.keys.find? fun key => casefold key = casefold id
  item name it := casefold it.key = casefold name

/-- No two names in a list are equal up to case. -/
structure Apart (s : Store) : Prop where
  names : (s.keys.map casefold).Nodup
  items : ∀ key w, s.get key = some w → (w.items.map fun it => casefold it.key).Nodup

/-- The items of a watchlist have a name in no other spelling. -/
def SpelledSo (s : Store) (watchlistAlias name : String) : Prop :=
  ∀ key w, find (sourceAddressing casefold) s watchlistAlias = some (key, w) →
    ∀ it ∈ w.items, casefold it.key = casefold name → it.key = name

/-- A request for an item does not find it there under another spelling. -/
def OneSpelling (s : Store) : Action → Prop
  | .getItem watchlistAlias name => SpelledSo casefold s watchlistAlias name
  | .deleteItem watchlistAlias name => SpelledSo casefold s watchlistAlias name
  | .putItem watchlistAlias name body => ∀ members columns, body = .dict members →
    readColumns (properties members) = .ok columns → SpelledSo casefold s watchlistAlias name
  | _ => True

variable {casefold} {s : Store}

/-! ## Watchlists -/

lemma storedKey_eq (h : Apart casefold s) (id : String) :
    storedKey casefold s id = s.keys.find? fun key => casefold key = casefold id := by
  rw [storedKey]
  split
  · next hid =>
    have hmem : id ∈ s.keys := Dict.mem_keys_iff.2 hid
    cases hfound : s.keys.find? fun key => casefold key = casefold id with
    | none => exact absurd (List.find?_eq_none.1 hfound id hmem) (by simp)
    | some key =>
      have hkey := List.mem_of_find?_eq_some hfound
      have hsame := List.find?_some hfound
      rw [decide_eq_true_eq] at hsame
      rw [List.inj_on_of_nodup_map h.names hkey hmem hsame]
  · rfl

lemma find_eq (h : Apart casefold s) (watchlistAlias : String) :
    find (sourceAddressing casefold) s watchlistAlias
      = find (caseless casefold) s watchlistAlias := by
  change (storedKey casefold s watchlistAlias).bind _ = _
  rw [storedKey_eq h]
  rfl

lemma get_of_find {addressing : Addressing} {watchlistAlias key : String} {w : Watchlist}
    (h : find addressing s watchlistAlias = some (key, w)) : s.get key = some w := by
  rw [find, Option.bind_eq_some_iff] at h
  obtain ⟨key', -, h⟩ := h
  rw [Option.map_eq_some_iff] at h
  obtain ⟨w', hw, heq⟩ := h
  cases heq
  exact hw

lemma fresh_of_find_none {watchlistAlias : String}
    (h : find (sourceAddressing casefold) s watchlistAlias = none) (happart : Apart casefold s) :
    casefold watchlistAlias ∉ s.keys.map casefold := by
  rw [find_eq happart, find, Option.bind_eq_none_iff] at h
  intro hmem
  obtain ⟨key, hkey, hsame⟩ := List.mem_map.1 hmem
  cases hfound : (caseless casefold).watchlist s watchlistAlias with
  | none => exact absurd (List.find?_eq_none.1 hfound key hkey) (by simpa using hsame)
  | some found =>
    have hin := Dict.mem_keys_iff.1 (List.mem_of_find?_eq_some hfound)
    have hno := h found hfound
    rw [Option.map_eq_none_iff] at hno
    rw [hno] at hin
    cases hin

/-! ## Items -/

variable {items : List Item} {name : String}

lemma any_congr {p q : Item → Bool} (h : ∀ it ∈ items, p it = q it) :
    items.any p = items.any q := by
  rw [Bool.eq_iff_iff, List.any_eq_true, List.any_eq_true]
  exact exists_congr fun it => and_congr_right fun hit => by rw [h it hit]

lemma upsert_congr {p q : Item → Bool} {made : Item} (h : ∀ it ∈ items, p it = q it) :
    upsert p made items = upsert q made items := by
  induction items with
  | nil => rfl
  | cons it items ih =>
    rw [upsert, upsert, h it List.mem_cons_self, ih fun it hit => h it (List.mem_cons_of_mem _ hit)]

lemma map_upsert {p : Item → Bool} (made : Item) :
    (items.any p = true → (upsert p made items).map Item.key = items.map Item.key)
      ∧ (items.any p = false → upsert p made items = items ++ [made]) := by
  induction items with
  | nil => exact ⟨nofun, fun _ => rfl⟩
  | cons it items ih =>
    rw [List.any_cons, upsert]
    cases hit : p it with
    | true => exact ⟨fun _ => rfl, nofun⟩
    | false =>
      rw [Bool.false_or]
      refine ⟨fun h => ?_, fun h => ?_⟩
      · rw [if_neg Bool.false_ne_true, List.map_cons, ih.1 h, List.map_cons]
      · rw [if_neg Bool.false_ne_true, ih.2 h, List.cons_append]

lemma item_eq (h : ∀ it ∈ items, casefold it.key = casefold name → it.key = name) :
    ∀ it ∈ items, (sourceAddressing casefold).item name it = (caseless casefold).item name it := by
  intro it hit
  change decide (it.key = name) = decide (casefold it.key = casefold name)
  rw [decide_eq_decide]
  exact ⟨fun heq => by rw [heq], h it hit⟩

/-! ## Lists of names -/

lemma Apart.set_of_some (h : Apart casefold s) {key : String} {w w' : Watchlist}
    (hw : s.get key = some w) (hitems : (w'.items.map fun it => casefold it.key).Nodup) :
    Apart casefold (s.set key w') := by
  refine ⟨?_, fun key' w'' hget => ?_⟩
  · rw [Dict.keys_set_of_some w' hw]
    exact h.names
  · rw [Dict.get_set] at hget
    split_ifs at hget
    · cases hget
      exact hitems
    · exact h.items key' w'' hget

lemma Apart.set_of_fresh (h : Apart casefold s) {key : String} {w : Watchlist}
    (hkey : casefold key ∉ s.keys.map casefold) (hitems : w.items = []) :
    Apart casefold (s.set key w) := by
  have hnone : s.get key = none :=
    Dict.get_eq_none_iff.2 fun hmem => hkey (List.mem_map_of_mem hmem)
  refine ⟨?_, fun key' w' hget => ?_⟩
  · rw [Dict.keys_set_of_none w hnone, List.map_append, List.map_singleton]
    refine List.nodup_append.2 ⟨h.names, List.nodup_singleton _, ?_⟩
    rintro name hname _ hsame rfl
    rw [List.mem_singleton.1 hsame] at hname
    exact hkey hname
  · rw [Dict.get_set] at hget
    split_ifs at hget
    · cases hget
      rw [hitems]
      exact List.nodup_nil
    · exact h.items key' w' hget

lemma Apart.erase (h : Apart casefold s) (key : String) : Apart casefold (s.erase key) := by
  refine ⟨?_, fun key' w hget => ?_⟩
  · rw [Dict.keys_erase]
    exact h.names.sublist ((List.filter_sublist).map casefold)
  · rw [Dict.get_erase] at hget
    split_ifs at hget
    exact h.items key' w hget

/-- A watchlist is put there once, whatever the case of its name. -/
lemma apart_putWatchlist (h : Apart casefold s) {watchlistAlias now etag : String}
    {properties : Json} {s' : Store} {existed : Bool}
    (hput : putWatchlist (sourceAddressing casefold) watchlistAlias properties now etag s
      = .ok (s', existed)) : Apart casefold s' := by
  rw [putWatchlist] at hput
  split at hput
  · next key w hfind =>
    obtain ⟨w', hupdated, heq⟩ := map_eq_ok_iff.1 hput
    cases heq
    have hget := get_of_find hfind
    refine h.set_of_some hget ?_
    have hitems : w'.items = w.items := by
      obtain ⟨_, -, hupdated⟩ := bind_eq_ok_iff.1 hupdated
      obtain ⟨_, -, hupdated⟩ := bind_eq_ok_iff.1 hupdated
      obtain ⟨_, -, hupdated⟩ := bind_eq_ok_iff.1 hupdated
      cases hupdated
      rfl
    rw [hitems]
    exact h.items key w hget
  · next hnone =>
    obtain ⟨w', hmade, heq⟩ := map_eq_ok_iff.1 hput
    cases heq
    refine h.set_of_fresh (fresh_of_find_none hnone h) ?_
    obtain ⟨_, -, hmade⟩ := bind_eq_ok_iff.1 hmade
    obtain ⟨_, -, hmade⟩ := bind_eq_ok_iff.1 hmade
    obtain ⟨_, -, hmade⟩ := bind_eq_ok_iff.1 hmade
    obtain ⟨_, -, hmade⟩ := bind_eq_ok_iff.1 hmade
    obtain ⟨_, -, hmade⟩ := bind_eq_ok_iff.1 hmade
    cases hmade
    rfl

lemma nodup_upsert {columns : Object} (h : (items.map fun it => casefold it.key).Nodup)
    (hspelled : ∀ it ∈ items, casefold it.key = casefold name → it.key = name) :
    ((upsert ((sourceAddressing casefold).item name) ⟨name, columns⟩ items).map
      fun it => casefold it.key).Nodup := by
  have hmap : ∀ l : List Item, (l.map fun it => casefold it.key) = (l.map Item.key).map casefold :=
    fun l => by rw [List.map_map]; rfl
  cases hany : items.any ((sourceAddressing casefold).item name) with
  | true => rwa [hmap, (map_upsert _).1 hany, ← hmap]
  | false =>
    rw [(map_upsert _).2 hany, List.map_append, List.map_singleton]
    refine List.nodup_append.2 ⟨h, List.nodup_singleton _, ?_⟩
    rintro folded hfolded _ hsame rfl
    rw [List.mem_singleton] at hsame
    obtain ⟨it, hit, heq⟩ := List.mem_map.1 hfolded
    have hkey := hspelled it hit (heq.trans hsame)
    rw [List.any_eq_false] at hany
    exact hany it hit (decide_eq_true hkey)

/-! ## Requests -/

/-- A request that finds items under one spelling keeps the names apart. -/
lemma Apart.step {a : Action} (h : Apart casefold s) (hone : OneSpelling casefold s a) :
    Apart casefold (step (sourceAddressing casefold) s a) := by
  rw [Watchlists.step]
  cases a with
  | listWatchlists => exact h
  | getWatchlist watchlistAlias =>
    rw [handle]
    split
    · exact h
    · exact h
  | putWatchlist watchlistAlias body now etag =>
    cases body with
    | dict members =>
      rw [handle]
      split
      · next hput =>
        have happart := apart_putWatchlist h hput
        split
        · exact happart
        · exact happart
      · exact h
    | _ => exact h
  | deleteWatchlist watchlistAlias =>
    rw [handle]
    split
    · exact h.erase _
    · exact h
  | listItems watchlistAlias =>
    rw [handle]
    split
    · exact h
    · exact h
  | getItem watchlistAlias name =>
    rw [handle]
    split
    · split
      · exact h
      · exact h
    · exact h
  | putItem watchlistAlias name body =>
    cases body with
    | dict members =>
      rw [handle]
      split
      · next key w hfind =>
        split
        · next columns hcolumns =>
          have hget := get_of_find hfind
          refine h.set_of_some hget (nodup_upsert (h.items key w hget) ?_)
          exact hone members columns rfl hcolumns key w hfind
        · exact h
      · exact h
    | _ => exact h
  | deleteItem watchlistAlias name =>
    rw [handle]
    split
    · next key w hfind =>
      split
      · have hget := get_of_find hfind
        refine h.set_of_some hget ?_
        exact (h.items key w hget).sublist ((List.filter_sublist).map _)
      · exact h
    · exact h

/-- Where items are found under one spelling, a request is answered and carried out as one that
    finds everything up to case. -/
lemma handle_eq {a : Action} (h : Apart casefold s) (hone : OneSpelling casefold s a) :
    handle (sourceAddressing casefold) s a = handle (caseless casefold) s a := by
  cases a with
  | listWatchlists => rfl
  | getWatchlist watchlistAlias => rw [handle, handle, find_eq h]
  | putWatchlist watchlistAlias body now etag =>
    cases body with
    | dict members =>
      have hsame : putWatchlist (caseless casefold) watchlistAlias (properties members) now etag s
          = putWatchlist (sourceAddressing casefold) watchlistAlias (properties members) now etag
            s := by
        rw [putWatchlist, putWatchlist, find_eq h]
      rw [handle, handle, hsame]
      split
      · next hput => rw [find_eq (apart_putWatchlist h hput)]
      · rfl
    | _ => rfl
  | deleteWatchlist watchlistAlias => rw [handle, handle, find_eq h]
  | listItems watchlistAlias => rw [handle, handle, find_eq h]
  | getItem watchlistAlias name =>
    rw [handle, handle, ← find_eq h]
    split
    · next key w hfind =>
      have hfound : w.items.find? ((sourceAddressing casefold).item name)
          = w.items.find? ((caseless casefold).item name) :=
        List.find?_congr (item_eq (hone key w hfind))
      rw [hfound]
    · rfl
  | putItem watchlistAlias name body =>
    cases body with
    | dict members =>
      rw [handle, handle, ← find_eq h]
      split
      · next key w hfind =>
        split
        · next columns hcolumns =>
          have hitems := item_eq (hone members columns rfl hcolumns key w hfind)
          rw [any_congr hitems, upsert_congr hitems]
        · rfl
      · rfl
    | _ => rfl
  | deleteItem watchlistAlias name =>
    rw [handle, handle, ← find_eq h]
    split
    · next key w hfind =>
      have hitems := item_eq (hone key w hfind)
      have hfilter := List.filter_congr fun it hit => congrArg not (hitems it hit)
      rw [any_congr hitems, hfilter]
    · rfl

lemma any_of_spelled {w : Watchlist} {key : String} {it : Item} (h : Apart casefold s)
    (hget : s.get key = some w) (hit : it ∈ w.items) (hsame : casefold it.key = casefold name)
    (hne : it.key ≠ name) :
    w.items.any ((sourceAddressing casefold).item name) = false
      ∧ w.items.any ((caseless casefold).item name) = true := by
  refine ⟨?_, List.any_eq_true.2 ⟨it, hit, decide_eq_true hsame⟩⟩
  rw [List.any_eq_false]
  intro it' hit' hfound
  have hkey : it'.key = name := of_decide_eq_true hfound
  have heq : it' = it :=
    List.inj_on_of_nodup_map (h.items key w hget) hit' hit (by rw [hkey, hsame])
  rw [heq] at hkey
  exact hne hkey

/-- A request that is answered and carried out as one that finds everything up to case, finds items
    under one spelling. -/
lemma oneSpelling_of_handle_eq {a : Action} (h : Apart casefold s)
    (heq : handle (sourceAddressing casefold) s a = handle (caseless casefold) s a) :
    OneSpelling casefold s a := by
  cases a with
  | getItem watchlistAlias name =>
    intro key w hfind it hit hsame
    by_contra hne
    obtain ⟨hno, hyes⟩ := any_of_spelled h (get_of_find hfind) hit hsame hne
    rw [List.any_eq_false, ← List.find?_eq_none] at hno
    rw [handle, handle, ← find_eq h, hfind] at heq
    simp only [hno] at heq
    split at heq
    · exact Response.noConfusion (congrArg Prod.snd heq)
    · next hnone =>
      rw [List.find?_eq_none, ← List.any_eq_false, hyes] at hnone
      cases hnone
  | putItem watchlistAlias name body =>
    rintro members columns rfl hcolumns key w hfind it hit hsame
    by_contra hne
    obtain ⟨hno, hyes⟩ := any_of_spelled h (get_of_find hfind) hit hsame hne
    rw [handle, handle, ← find_eq h, hfind] at heq
    simp only [hcolumns] at heq
    have hlength := congrArg (fun p => (p.1.get key).map fun w => w.items.length) heq
    simp only [Dict.get_set_self, Option.map_some, (map_upsert _).2 hno, Option.some.injEq,
      List.length_append, List.length_singleton] at hlength
    have hkeys := congrArg List.length ((map_upsert ⟨name, columns⟩).1 hyes)
    rw [List.length_map, List.length_map] at hkeys
    omega
  | deleteItem watchlistAlias name =>
    intro key w hfind it hit hsame
    by_contra hne
    obtain ⟨hno, hyes⟩ := any_of_spelled h (get_of_find hfind) hit hsame hne
    rw [handle, handle, ← find_eq h, hfind] at heq
    simp only [hno, hyes, Bool.false_eq_true, if_false, if_true] at heq
    exact Response.noConfusion (congrArg Prod.snd heq) fun hbool => by cases hbool
  | _ => trivial

/-! ## Runs -/

/-- Along a run every request is answered and carried out as one that finds watchlists and items up
    to case, and no list shows two names that are equal up to case. -/
structure Faithful (casefold : String → String) (s : Store) (as : List Action) : Prop where
  requests : Along (step (sourceAddressing casefold))
    (fun s a => handle (sourceAddressing casefold) s a = handle (caseless casefold) s a) s as
  lists : ∀ pre, pre <+: as → Apart casefold (runFrom (step (sourceAddressing casefold)) s pre)

/-- Names are addresses up to case along a run exactly when no request for an item finds one there
    under another spelling. -/
theorem faithful_iff (casefold : String → String) {s : Store} (hs : Apart casefold s)
    (as : List Action) : Faithful casefold s as
      ↔ Along (step (sourceAddressing casefold)) (OneSpelling casefold) s as := by
  constructor
  · rintro ⟨hrequests, hlists⟩
    induction as generalizing s with
    | nil => trivial
    | cons a as ih =>
      refine ⟨oneSpelling_of_handle_eq hs hrequests.1, ih ?_ hrequests.2 ?_⟩
      · exact hlists [a] (List.prefix_append [a] as)
      · exact fun pre hpre => hlists (a :: pre) (List.cons_prefix_cons.2 ⟨rfl, hpre⟩)
  · intro h
    have hstep : ∀ s a, OneSpelling casefold s a → Apart casefold s →
        Apart casefold (step (sourceAddressing casefold) s a) := fun _ _ hone hs => hs.step hone
    have hsame : ∀ s a, OneSpelling casefold s a → Apart casefold s →
        (handle (sourceAddressing casefold) s a = handle (caseless casefold) s a
          ↔ OneSpelling casefold s a) :=
      fun _ _ hone hs => iff_of_true (handle_eq hs hone) hone
    refine ⟨(Along.congr hstep hsame h hs).2 h, fun pre hpre => ?_⟩
    obtain ⟨rest, rfl⟩ := hpre
    exact (Along.append_iff.1 h).1.invariant hstep hs

lemma apart_empty (casefold : String → String) : Apart casefold .empty :=
  ⟨List.nodup_nil, nofun⟩

/-- A watchlist is read in another case than it was made in. -/
theorem faithful_iff_watchlist :
    Faithful asciiPython.lower .empty
      [.putWatchlist "W" (.dict []) "now" "1", .getWatchlist "w", .deleteWatchlist "w"] :=
  (faithful_iff asciiPython.lower (apart_empty _) _).2 ⟨trivial, trivial, trivial, trivial⟩

/-- An item is not read in another case than it was made in. -/
theorem item_spelled_otherwise :
    ¬ Faithful asciiPython.lower .empty
      [.putWatchlist "w" (.dict []) "now" "1",
        .putItem "w" "A" (.dict [("properties", .dict [("column", .str "value")])]),
        .getItem "w" "a"] := by
  intro h
  have hread := congrArg Prod.snd h.requests.2.2.1
  exact absurd hread (by intro hresponse; cases hresponse)

end Watchlists

end Mockdr
