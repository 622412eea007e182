import ServiceDiscovery.Proofs.Address.Text
import ServiceDiscovery.Proofs.Association
import ServiceDiscovery.Proofs.Json.Text
import ServiceDiscovery.Proofs.View.Table

/-!
# What a digest depends on

The text that is hashed tells the sorted entries, but for their times, and nothing else
(`Digest.text_eq_text_iff`). The order of the entries goes by instance name and service
type only. So entries that agree in both and not in address and port stay as they were
listed, and the text tells which of them came first: it is the same for every order of the
entries exactly if there are none of these (`Digest.Unambiguous`).

What holds of the entries listed holds of a view (`View.digest_iff`): what led to its
peers does not matter for its digest, nor does the order in which they are listed, if they
are unambiguous. An instance seen on two interfaces makes them ambiguous
(`View.digest_reordered`).
-/

namespace ServiceDiscovery

variable {τ : Type u}

/-- Sorting does not move those that may stand in any order. -/
theorem filter_mergeSort {α : Type u} {le : α → α → Bool} {p : α → Bool}
    (htrans : ∀ x y z, le x y → le y z → le x z) (htotal : ∀ x y, le x y || le y x)
    (htied : ∀ x y, p x → p y → le x y) (xs : List α) :
    (xs.mergeSort le).filter p = xs.filter p := by
  -- They are sorted as they stand, and what is sorted of a list is found in the sorted list.
  have hsorted : (xs.filter p).Pairwise (le · ·) :=
    List.pairwise_of_forall_mem_list fun x hx y hy =>
      htied x y (List.of_mem_filter hx) (List.of_mem_filter hy)
  have hsublist := (List.sublist_mergeSort htrans htotal hsorted List.filter_sublist).filter p
  rw [List.filter_filter] at hsublist
  simp only [Bool.and_self] at hsublist
  exact (hsublist.eq_of_length ((List.mergeSort_perm xs le).filter p).length_eq.symm).symm

namespace Digest

variable {entries : List (PeerEntry τ)} {x y z : PeerEntry τ}

/-! ## The order of entries -/

/-- Whether the order does not tell two entries apart. -/
def tied (x y : PeerEntry τ) : Bool :=
  y.instanceName = x.instanceName && y.serviceType = x.serviceType

/-- The order, of what entries say. -/
def PlaceLe (a b : String × String × IpAddress × UInt16) : Prop :=
  a.1 < b.1 ∨ a.1 = b.1 ∧ a.2.1 ≤ b.2.1

theorem le_iff : le x y ↔ PlaceLe x.place y.place := by
  simp [le, PlaceLe, PeerEntry.place]

theorem le_trans (hxy : le x y) (hyz : le y z) : le x z := by
  rw [le_iff, PlaceLe] at hxy hyz ⊢
  rcases hxy with hxy | ⟨hxy, hxy'⟩
  · rcases hyz with hyz | ⟨hyz, -⟩
    · exact .inl (String.lt_trans hxy hyz)
    · exact .inl (hyz ▸ hxy)
  · rcases hyz with hyz | ⟨hyz, hyz'⟩
    · exact .inl (hxy ▸ hyz)
    · exact .inr ⟨hxy.trans hyz, String.le_trans hxy' hyz'⟩

theorem le_total (x y : PeerEntry τ) : le x y || le y x := by
  rw [Bool.or_eq_true, le_iff, le_iff, PlaceLe, PlaceLe]
  by_cases hlt : x.instanceName < y.instanceName
  · exact .inl (.inl hlt)
  by_cases hgt : y.instanceName < x.instanceName
  · exact .inr (.inl hgt)
  have hname := String.le_antisymm (String.not_lt.1 hgt) (String.not_lt.1 hlt)
  exact (String.le_total x.serviceType y.serviceType).imp (fun h => .inr ⟨hname, h⟩)
    fun h => .inr ⟨hname.symm, h⟩

theorem le_of_tied (hx : tied z x) (hy : tied z y) : le x y := by
  simp only [tied, Bool.and_eq_true, decide_eq_true_eq] at hx hy
  have htype : x.serviceType = y.serviceType := hx.2.trans hy.2.symm
  have hle : x.serviceType ≤ y.serviceType := htype ▸ String.le_refl _
  exact le_iff.2 (.inr ⟨hx.1.trans hy.1.symm, hle⟩)

theorem eq_of_le_of_le (hxy : le x y) (hyx : le y x) :
    x.instanceName = y.instanceName ∧ x.serviceType = y.serviceType := by
  rw [le_iff, PlaceLe] at hxy hyx
  rcases hxy with hxy | ⟨hname, hxy⟩
  · rcases hyx with hyx | ⟨hname, -⟩
    · exact absurd (String.lt_trans hxy hyx) (String.lt_irrefl _)
    · exact absurd (hname ▸ hxy) (String.lt_irrefl _)
  · rcases hyx with hyx | ⟨-, hyx⟩
    · exact absurd (hname ▸ hyx) (String.lt_irrefl _)
    · exact ⟨hname, String.le_antisymm hxy hyx⟩

/-! ## The text -/

/-- The text of what an entry says. -/
def placeText (place : String × String × IpAddress × UInt16) : List Char :=
  Json.object [
    ("instance_name", Json.string place.1),
    ("service_type", Json.string place.2.1),
    ("address", Json.string place.2.2.1.render),
    ("port", Json.number place.2.2.2.toNat)]

theorem entryText_eq : (entryText : PeerEntry τ → List Char) = placeText ∘ PeerEntry.place := rfl

theorem tells_placeText : Json.Tells placeText id := by
  have hname : Json.Tells (fun place : String × String × IpAddress × UInt16 =>
      Json.string place.1) fun place => place.1 := Json.tells_string.comp _
  have htype : Json.Tells (fun place : String × String × IpAddress × UInt16 =>
      Json.string place.2.1) fun place => place.2.1 := Json.tells_string.comp _
  have haddress : Json.Tells (fun place : String × String × IpAddress × UInt16 =>
      Json.string place.2.2.1.render) fun place => place.2.2.1 :=
    (Json.tells_string.comp _).imp fun _ _ he => IpAddress.render_inj he
  have hport : Json.Tells (fun place : String × String × IpAddress × UInt16 =>
      Json.number place.2.2.2.toNat) fun place => place.2.2.2 :=
    (Json.tells_number.comp _).imp fun _ _ he => UInt16.toNat_inj.1 he
  exact ((hname.member "instance_name").comma ((htype.member "service_type").comma
    ((haddress.member "address").comma (hport.member "port")))).braces

/-- The text tells the sorted entries, but for their times, and depends on nothing else. -/
theorem text_eq_text_iff {σ : Type v} {other : List (PeerEntry σ)} : text entries = text other ↔
    (entries.mergeSort le).map PeerEntry.place = (other.mergeSort le).map PeerEntry.place := by
  rw [text, text, entryText_eq, entryText_eq, ← List.map_map, ← List.map_map]
  constructor
  · intro h
    have hplaces := Json.map_eq_of_array tells_placeText (fun place => ⟨_, _, rfl, by decide⟩)
      (String.ofList_injective h)
    rwa [List.map_id, List.map_id] at hplaces
  · intro h
    rw [h]

/-! ## Entries that are told apart -/

/-- Entries with the same instance name and service type have the same address and port. -/
def Unambiguous (entries : List (PeerEntry τ)) : Prop :=
  ∀ x ∈ entries, ∀ y ∈ entries, x.instanceName = y.instanceName →
    x.serviceType = y.serviceType → x.address = y.address ∧ x.port = y.port

instance : Decidable (Unambiguous entries) :=
  inferInstanceAs (Decidable (∀ x ∈ entries, ∀ y ∈ entries, x.instanceName = y.instanceName →
    x.serviceType = y.serviceType → x.address = y.address ∧ x.port = y.port))

theorem Unambiguous.place_eq (h : Unambiguous entries) (hx : x ∈ entries) (hy : y ∈ entries)
    (hname : x.instanceName = y.instanceName) (htype : x.serviceType = y.serviceType) :
    x.place = y.place := by
  obtain ⟨haddress, hport⟩ := h x hx y hy hname htype
  exact Prod.ext hname (Prod.ext htype (Prod.ext haddress hport))

/-- Unambiguous entries have the same text, however they are listed. -/
theorem Unambiguous.text_eq (h : Unambiguous entries) {other : List (PeerEntry τ)}
    (hperm : (other.map PeerEntry.place).Perm (entries.map PeerEntry.place)) :
    text other = text entries := by
  have hsorted (xs : List (PeerEntry τ)) :
      ((xs.mergeSort le).map PeerEntry.place).Pairwise PlaceLe := by
    refine List.pairwise_map.2 (List.Pairwise.imp (fun hxy => le_iff.1 hxy) ?_)
    exact List.pairwise_mergeSort (fun x y z (hxy : le x y) => le_trans hxy) le_total xs
  have hmem (xs : List (PeerEntry τ)) :
      ((xs.mergeSort le).map PeerEntry.place).Perm (xs.map PeerEntry.place) :=
    (List.mergeSort_perm xs le).map _
  -- Sorted lists of the same places are equal, for places that tie are equal.
  refine text_eq_text_iff.2 (List.Perm.eq_of_pairwise (fun a b ha hb hab hba => ?_)
    (hsorted other) (hsorted entries) ((hmem other).trans (hperm.trans (hmem entries).symm)))
  obtain ⟨x, hx, rfl⟩ := List.mem_map.1 ((hmem other).trans hperm |>.mem_iff.1 ha)
  obtain ⟨y, hy, rfl⟩ := List.mem_map.1 ((hmem entries).mem_iff.1 hb)
  obtain ⟨hname, htype⟩ := eq_of_le_of_le (le_iff.2 hab) (le_iff.2 hba)
  exact h.place_eq hx hy hname htype

/-- The text tells those that the order does not tell apart as they were listed. -/
theorem map_filter_tied_of_text {other : List (PeerEntry τ)} (h : text entries = text other)
    (x : PeerEntry τ) :
    (entries.filter (tied x)).map PeerEntry.place =
      (other.filter (tied x)).map PeerEntry.place := by
  have hkept (xs : List (PeerEntry τ)) : (xs.mergeSort le).filter (tied x) = xs.filter (tied x) :=
    filter_mergeSort (fun y z u (hyz : le y z) => le_trans hyz) le_total
      (fun y z => le_of_tied) xs
  have hplaces := congrArg (List.filter fun a => a.1 = x.instanceName && a.2.1 = x.serviceType)
    (text_eq_text_iff.1 h)
  rw [List.filter_map, List.filter_map] at hplaces
  calc (entries.filter (tied x)).map PeerEntry.place
    _ = ((entries.mergeSort le).filter (tied x)).map PeerEntry.place := by rw [hkept]
    _ = ((other.mergeSort le).filter (tied x)).map PeerEntry.place := hplaces
    _ = (other.filter (tied x)).map PeerEntry.place := by rw [hkept]

/-- Entries have the same text in any order only if they are unambiguous, also if they are
    arranged first in a way that keeps the order of those that are not told apart. -/
theorem unambiguous_of_text {arrange : List (PeerEntry τ) → List (PeerEntry τ)}
    (hstable : ∀ xs x, (arrange xs).filter (tied x) = xs.filter (tied x))
    (h : ∀ xs ys, xs.Perm entries → ys.Perm entries → text (arrange xs) = text (arrange ys)) :
    Unambiguous entries := by
  intro x hx y hy hname htype
  by_cases hxy : x = y
  · subst hxy
    exact ⟨rfl, rfl⟩
  obtain ⟨before, after, rfl⟩ := List.append_of_mem hx
  have hy' : y ∈ before ++ after := by
    rw [List.mem_append, List.mem_cons] at hy
    exact List.mem_append.2 (hy.imp_right fun hy => hy.resolve_left (Ne.symm hxy))
  obtain ⟨before', after', hrest⟩ := List.append_of_mem hy'
  have hperm : (x :: y :: (before' ++ after')).Perm (before ++ x :: after) := by
    refine List.Perm.trans (List.Perm.cons x ?_) List.perm_middle.symm
    rw [hrest]
    exact List.perm_middle.symm
  have hswap := (List.Perm.swap x y (before' ++ after')).trans hperm
  -- Of the two orders, one begins with `x` and one with `y`.
  have hplaces := map_filter_tied_of_text (h _ _ hperm hswap) x
  have htied : tied x x = true ∧ tied x y = true := by simp [tied, hname, htype]
  rw [hstable, hstable, List.filter_cons_of_pos htied.1, List.filter_cons_of_pos htied.2,
    List.filter_cons_of_pos htied.2, List.filter_cons_of_pos htied.1] at hplaces
  have hplace : x.place = y.place := (List.cons.inj hplaces).1
  obtain ⟨-, -, haddress, hport⟩ := by simpa [PeerEntry.place] using hplace
  exact ⟨haddress, hport⟩

end Digest

/-! ## Tables -/

namespace PeerTable

variable {t t' : PeerTable τ}

/-- Entries by instance name; those with the same one stay as they are listed. -/
def byName (entries : List (PeerEntry τ)) : List (PeerEntry τ) :=
  entries.mergeSort fun x y => x.instanceName ≤ y.instanceName

theorem all_eq (t : PeerTable τ) : t.all = byName t.entries.values := rfl

theorem byName_perm (entries : List (PeerEntry τ)) : (byName entries).Perm entries :=
  List.mergeSort_perm ..

theorem filter_byName (entries : List (PeerEntry τ)) (x : PeerEntry τ) :
    (byName entries).filter (Digest.tied x) = entries.filter (Digest.tied x) := by
  refine filter_mergeSort (fun y z u hyz hzu => ?_) (fun y z => ?_) (fun y z hy hz => ?_) entries
  · exact decide_eq_true (String.le_trans (of_decide_eq_true hyz) (of_decide_eq_true hzu))
  · rw [Bool.or_eq_true, decide_eq_true_eq, decide_eq_true_eq]
    exact String.le_total ..
  · simp only [Digest.tied, Bool.and_eq_true, decide_eq_true_eq] at hy hz
    exact decide_eq_true (hy.1.trans hz.1.symm ▸ String.le_refl _)

/-- Under every key both have the same address and port, or no entry. -/
def SamePlaces (t t' : PeerTable τ) : Prop :=
  ∀ key, (t.entries.get? key).map (fun e => (e.address, e.port)) =
    (t'.entries.get? key).map fun e => (e.address, e.port)

instance : Decidable (t.SamePlaces t') := by
  refine decidable_of_iff (∀ key ∈ t.entries.keys ++ t'.entries.keys,
    (t.entries.get? key).map (fun e => (e.address, e.port)) =
      (t'.entries.get? key).map fun e => (e.address, e.port))
    ⟨fun h key => ?_, fun h key _ => h key⟩
  by_cases hkey : key ∈ t.entries.keys ++ t'.entries.keys
  · exact h key hkey
  · have hnone {t : PeerTable τ} (h : key ∉ t.entries.keys) : t.entries.get? key = none :=
      Option.eq_none_iff_forall_ne_some.2 fun e he => h (t.entries.mem_keys_iff.2 ⟨e, he⟩)
    rw [List.mem_append, not_or] at hkey
    rw [hnone hkey.1, hnone hkey.2]

/-- Every entry has the name and the type of its key. -/
def Named (t : PeerTable τ) : Prop :=
  ∀ key entry, t.entries.get? key = some entry →
    entry.instanceName = key.name ∧ entry.serviceType = key.serviceType

theorem Named.put (h : t.Named) {key : PeerKey} {entry : PeerEntry τ}
    (hentry : entry.instanceName = key.name ∧ entry.serviceType = key.serviceType) :
    Named ⟨t.entries.put key entry⟩ := by
  intro k e he
  dsimp only at he
  rw [Association.get?_put] at he
  split at he
  · obtain rfl := Option.some.inj he
    rename_i hk
    exact hk ▸ hentry
  · exact h k e he

theorem Named.insert (h : t.Named) (peer : Peer) (now : τ) : (t.insert peer now).1.Named := by
  rw [PeerTable.insert]
  split
  · exact h.put ⟨rfl, rfl⟩
  · rename_i entry hentry
    split
    · exact h
    · have hnames := h _ entry hentry
      exact h.put hnames

theorem Named.remove (h : t.Named) (key : PeerKey) : (t.remove key).1.Named := by
  rw [PeerTable.remove]
  split
  · intro k e he
    exact h k e (Association.get?_erase_eq_some_iff.1 he).2
  · exact h

/-- What an entry says is its key's name and type and where the peer is. -/
theorem Named.bind_place (h : t.Named) (key : PeerKey) :
    ((t.entries.get? key).bind fun e => some e.place) =
      ((t.entries.get? key).map fun e => (e.address, e.port)).map
        fun place => (key.name, key.serviceType, place) := by
  cases hentry : t.entries.get? key with
  | none => rfl
  | some entry =>
    obtain ⟨hname, htype⟩ := h key entry hentry
    exact congrArg some (Prod.ext hname (Prod.ext htype rfl))

/-- Tables with the same places list entries that say the same. -/
theorem SamePlaces.perm (h : t.SamePlaces t') (hnamed : t.Named) (hnamed' : t'.Named) :
    (t.entries.values.map PeerEntry.place).Perm (t'.entries.values.map PeerEntry.place) := by
  have hvalues (m : Association PeerKey (PeerEntry τ)) :
      m.values.map PeerEntry.place = (m.entries fun e => some e.place).map Prod.snd := by
    simp [Association.values, Association.entries, Function.comp_def]
  rw [hvalues, hvalues]
  refine (Association.perm_entries fun key => ?_).map Prod.snd
  rw [hnamed.bind_place, hnamed'.bind_place, h key]

theorem insert_of_unchanged {peer : Peer} {now : τ} (h : (t.insert peer now).2 = false) :
    (t.insert peer now).1 = t := by
  rw [insert] at h ⊢
  split at h
  · cases h
  · split at h
    · rename_i hsame
      rw [if_pos hsame]
    · cases h

theorem remove_of_unchanged {key : PeerKey} (h : (t.remove key).2 = false) :
    (t.remove key).1 = t := by
  rw [remove] at h ⊢
  split at h
  · cases h
  · rename_i hfree
    rw [if_neg hfree]

end PeerTable

/-! ## Views -/

/-- What happens to a view. -/
inductive ViewAction (τ : Type u)
  /-- A request is put to it. -/
  | ask (asker : Nat) (request : ViewRequest)
  /-- It works off the first of its requests. -/
  | step (now : τ)

namespace View

variable {v v' : View τ}

/-- The view after something that happens to it. -/
def act? (v : View τ) : ViewAction τ → Option (View τ)
  | .ask asker request => some (v.ask asker request).1
  | .step now => (v.step? now).map Prod.fst

/-- The view after all that happens to it. -/
def acts? (v : View τ) (actions : List (ViewAction τ)) : Option (View τ) := actions.foldlM act? v

/-- A view that published the digest of its table, whose entries go with their keys. -/
structure Published (v : View τ) : Prop where
  digest : v.digest = Digest.of v.table.all
  named : v.table.Named

namespace Published

theorem start : Published ({} : View τ) where
  digest := by
    have hall : ({} : PeerTable τ).all = [] := List.mergeSort_nil
    change Digest.of [] = Digest.of ({} : PeerTable τ).all
    rw [hall]
  named := nofun

theorem setTable (h : v.Published) {table : PeerTable τ} {changed : Bool} (hnamed : table.Named)
    (hsame : changed = false → table = v.table) : (v.setTable table changed).Published := by
  cases changed with
  | true => exact ⟨rfl, hnamed⟩
  | false =>
    obtain rfl := hsame rfl
    exact h

theorem handle (h : v.Published) (now : τ) (request : ViewRequest) :
    (v.handle now request).1.Published := by
  cases request with
  | insert peer => exact h.setTable (h.named.insert peer now) PeerTable.insert_of_unchanged
  | remove key => exact h.setTable (h.named.remove key) PeerTable.remove_of_unchanged
  | all | one name | shutdown => exact ⟨h.digest, h.named⟩

theorem act (h : v.Published) {action : ViewAction τ} (hact : v.act? action = some v') :
    v'.Published := by
  cases action with
  | ask asker request =>
    obtain rfl := Option.some.inj hact
    rw [View.ask]
    split
    · exact h
    · exact ⟨h.digest, h.named⟩
  | step now =>
    obtain ⟨⟨after, answers⟩, hstep, rfl⟩ := Option.map_eq_some_iff.1 hact
    rw [step?] at hstep
    split at hstep
    · cases hstep
    · rename_i asker request rest hrequests
      have hrest : Published { v with requests := rest } := ⟨h.digest, h.named⟩
      have hhandled := hrest.handle now request
      -- Closing only drops the requests.
      dsimp only at hstep
      split at hstep
      · obtain rfl := (Prod.mk.inj (Option.some.inj hstep)).1
        exact ⟨hhandled.digest, hhandled.named⟩
      · obtain rfl := (Prod.mk.inj (Option.some.inj hstep)).1
        exact hhandled

theorem acts (h : v.Published) {actions : List (ViewAction τ)} (hacts : v.acts? actions = some v') :
    v'.Published := by
  induction actions generalizing v with
  | nil =>
    obtain rfl := Option.some.inj hacts
    exact h
  | cons action actions ih =>
    rw [acts?, List.foldlM_cons] at hacts
    obtain ⟨between, hact, hrest⟩ := Option.bind_eq_some_iff.1 hacts
    exact ih (h.act hact) hrest

end Published

/-- The requests that have peers inserted, one after the other. -/
def insertions (peers : List Peer) : List (ViewAction Nat) :=
  peers.flatMap fun peer => [.ask 0 (.insert peer), .step 0]

/-- A table into which peers were inserted. -/
def inserted (peers : List Peer) : PeerTable Nat :=
  peers.foldl (fun table peer => (table.insert peer 0).1) {}

/-- An idle view inserts a peer that it is asked to insert. -/
theorem acts?_insert (v : View Nat) (hopen : v.closed = false) (hidle : v.requests = [])
    (peer : Peer) :
    v.acts? [.ask 0 (.insert peer), .step 0] = some (v.handle 0 (.insert peer)).1 := by
  obtain ⟨table, digest, publications, requests, closed⟩ := v
  obtain rfl : requests = [] := hidle
  obtain rfl : closed = false := hopen
  simp only [acts?, act?, ask, step?, handle, closed_setTable, List.foldlM_cons, List.foldlM_nil,
    Bool.false_eq_true, if_false, List.nil_append, Option.map_some, Option.bind_eq_bind,
    Option.bind_some, Option.pure_def]

theorem exists_acts?_insertions (peers : List Peer) :
    ∃ v, acts? {} (insertions peers) = some v ∧ v.table = inserted peers := by
  have hall (v : View Nat) (hopen : v.closed = false) (hidle : v.requests = []) :
      ∃ v', v.acts? (insertions peers) = some v' ∧
        v'.table = peers.foldl (fun table peer => (table.insert peer 0).1) v.table := by
    induction peers generalizing v with
    | nil => exact ⟨v, rfl, rfl⟩
    | cons peer peers ih =>
      have hhandle : (v.handle 0 (.insert peer)).1.table = (v.table.insert peer 0).1 :=
        table_setTable ..
      obtain ⟨v', hacts, htable⟩ := ih (v.handle 0 (.insert peer)).1
        ((closed_setTable ..).trans hopen) ((requests_setTable ..).trans hidle)
      refine ⟨v', ?_, by rw [htable, hhandle, List.foldl_cons]⟩
      rw [insertions, List.flatMap_cons, acts?, List.foldlM_append]
      change v.acts? _ >>= _ = _
      rw [acts?_insert v hopen hidle peer]
      exact hacts
  exact hall {} rfl rfl

/-- The text that is hashed is the same for every order of the entries if and only if they are
    unambiguous. Of a view, whatever led to it, the text is the same for every way to list its
    peers, and the peers of any other view with the same ones, if and only if they are
    unambiguous; and then all publish the same digest. -/
theorem digest_iff :
    (∀ entries : List (PeerEntry τ),
      (Digest.Unambiguous entries ↔
        ∀ other, other.Perm entries → Digest.text other = Digest.text entries) ∧
      (Digest.Unambiguous entries →
        ∀ other, other.Perm entries → Digest.of other = Digest.of entries)) ∧
    ∀ {actions actions' : List (ViewAction τ)} {v v' : View τ},
      acts? {} actions = some v → acts? {} actions' = some v' → v.table.SamePlaces v'.table →
      (Digest.Unambiguous v.table.entries.values ↔
        ∀ listed listed', listed.Perm v.table.entries.values →
          listed'.Perm v'.table.entries.values →
          Digest.text (PeerTable.byName listed) = Digest.text (PeerTable.byName listed')) ∧
      (Digest.Unambiguous v.table.entries.values →
        v.digest = v'.digest ∧ ∀ listed, listed.Perm v.table.entries.values →
          Digest.of (PeerTable.byName listed) = v.digest) := by
  have hof {xs ys : List (PeerEntry τ)} (h : Digest.text xs = Digest.text ys) :
      Digest.of xs = Digest.of ys := by
    rw [Digest.of, Digest.of, h]
  refine ⟨fun entries => ⟨⟨fun h other hperm => h.text_eq (hperm.map _), fun h => ?_⟩,
    fun h other hperm => hof (h.text_eq (hperm.map _))⟩, ?_⟩
  · exact Digest.unambiguous_of_text (fun _ _ => rfl) fun xs ys hxs hys =>
      (h xs hxs).trans (h ys hys).symm
  intro actions actions' v v' hacts hacts' hsame
  have hv := Published.start.acts hacts
  have hv' := Published.start.acts hacts'
  have hplaces := hsame.perm hv.named hv'.named
  have hlisted {listed listed' : List (PeerEntry τ)} (h : Digest.Unambiguous v.table.entries.values)
      (hperm : listed.Perm v.table.entries.values) (hperm' : listed'.Perm v'.table.entries.values) :
      Digest.text (PeerTable.byName listed) = Digest.text (PeerTable.byName listed') := by
    have hleft := h.text_eq (((PeerTable.byName_perm listed).trans hperm).map _)
    have hright := h.text_eq
      ((((PeerTable.byName_perm listed').trans hperm').map _).trans hplaces.symm)
    exact hleft.trans hright.symm
  refine ⟨⟨fun h listed listed' => hlisted h, fun h => ?_⟩, fun h => ⟨?_, fun listed hperm => ?_⟩⟩
  · exact Digest.unambiguous_of_text PeerTable.filter_byName fun xs ys hxs hys =>
      (h xs _ hxs (.refl _)).trans (h ys _ hys (.refl _)).symm
  · rw [hv.digest, hv'.digest, PeerTable.all_eq, PeerTable.all_eq]
    exact hof (hlisted h (.refl _) (.refl _))
  · have hlast := hlisted h hperm (.refl _)
    rw [hv.digest, PeerTable.all_eq]
    exact hof (hlast.trans (hlisted h (.refl _) (.refl _)).symm)

/-- Two peers in either order, one of which was at another port first. -/
theorem digest_iff_moved :
    let nas : Peer := ⟨⟨"eth0", .inet, "nas", "_files._tcp", "local."⟩, .v4 ⟨10, 0, 0, 5⟩, 9000⟩
    let box : Peer := ⟨⟨"eth0", .inet, "box", "_files._tcp", "local."⟩, .v4 ⟨10, 0, 0, 6⟩, 9000⟩
    ∃ v v', acts? {} (insertions [nas, box]) = some v ∧
      acts? {} (insertions [box, { nas with port := 80 }, nas]) = some v' ∧
      v.table.entries.keys ≠ v'.table.entries.keys ∧ v.digest = v'.digest := by
  intro nas box
  obtain ⟨v, hacts, htable⟩ := exists_acts?_insertions [nas, box]
  obtain ⟨v', hacts', htable'⟩ := exists_acts?_insertions [box, { nas with port := 80 }, nas]
  have hsame : v.table.SamePlaces v'.table := by
    rw [htable, htable']
    decide +kernel
  have hplain : Digest.Unambiguous v.table.entries.values := by
    rw [htable]
    decide +kernel
  refine ⟨v, v', hacts, hacts', ?_, ((digest_iff.2 hacts hacts' hsame).2 hplain).1⟩
  rw [htable, htable']
  decide +kernel

/-- An instance that is seen on two interfaces, with another address on each: the view has the
    same peers in either order, and publishes two digests for them. -/
theorem digest_reordered :
    let nas (interface : String) (last : UInt8) : Peer :=
      ⟨⟨interface, .inet, "nas", "_files._tcp", "local."⟩, .v4 ⟨10, 0, 0, last⟩, 9000⟩
    ∃ v v', acts? {} (insertions [nas "eth0" 5, nas "wlan0" 6]) = some v ∧
      acts? {} (insertions [nas "wlan0" 6, nas "eth0" 5]) = some v' ∧
      v.table.SamePlaces v'.table ∧ v.table.all.Perm v'.table.all ∧
      Digest.of v.table.all ≠ Digest.of v'.table.all ∧ v.digest ≠ v'.digest := by
  intro nas
  obtain ⟨v, hacts, htable⟩ := exists_acts?_insertions [nas "eth0" 5, nas "wlan0" 6]
  obtain ⟨v', hacts', htable'⟩ := exists_acts?_insertions [nas "wlan0" 6, nas "eth0" 5]
  let entry (interface : String) (last : UInt8) := PeerTable.newEntry (nas interface last) 0
  have hall : v.table.all = [entry "eth0" 5, entry "wlan0" 6] := by
    rw [htable]
    exact List.mergeSort_of_pairwise (by decide +kernel)
  have hall' : v'.table.all = [entry "wlan0" 6, entry "eth0" 5] := by
    rw [htable']
    exact List.mergeSort_of_pairwise (by decide +kernel)
  -- Both lists are sorted already: the two entries tie.
  have hdigests : Digest.of v.table.all ≠ Digest.of v'.table.all := by
    rw [hall, hall', Digest.of, Digest.of, Digest.text, Digest.text,
      List.mergeSort_of_pairwise (by decide +kernel),
      List.mergeSort_of_pairwise (by decide +kernel)]
    decide +kernel
  refine ⟨v, v', hacts, hacts', ?_, ?_, hdigests, ?_⟩
  · rw [htable, htable']
    decide +kernel
  · rw [hall, hall']
    exact List.Perm.swap ..
  · rw [(Published.start.acts hacts).digest, (Published.start.acts hacts').digest]
    exact hdigests

end View

end ServiceDiscovery
