import NodeAtlas.Inventory.Index

/-! What the transaction of a synchronization leaves in the servers table. -/

set_option autoImplicit false

namespace NodeAtlas.Inventory

open Transactions (Failure)

variable {db : Database} {connectionID : GoString} {before after : List IndexRow} {servers : List IndexedServer}

section Definitions

variable (db)

/-- The row has the columns of the server, all but its key and its creation. -/
structure IndexRow.Shows (server : IndexedServer) (row : IndexRow) : Prop where
  name : row.name = server.name
  state : row.state = server.state
  remoteState : row.remoteState = server.remoteState
  spec : row.spec = server.spec
  addresses : row.addresses = server.addresses
  capabilities : row.capabilities = server.capabilities
  portalURL : row.portalURL = server.portalURL
  lastSeenAt : row.lastSeenAt = db.stamp server.lastSeenAt
  lastStateCheckedAt : row.lastStateCheckedAt = db.stamp server.lastStateCheckedAt
  updatedAt : row.updatedAt = db.stamp server.updatedAt

/-- The row stands for the remote server. -/
abbrev IndexRow.For (server : IndexedServer) (row : IndexRow) : Prop :=
  sameRemote db row.toIndexedServer server = true

/-- What a synchronization with these servers makes of the rows of a table. -/
structure Replaced (connectionID : GoString) (before : List IndexRow) (servers : List IndexedServer)
    (after : List IndexRow) : Prop where
  visible : ∀ row ∈ after, db.same row.connectionID connectionID = true →
    (row.hiddenAt = none ↔ ∃ server ∈ servers, row.For db server)
  present : ∀ server ∈ servers, ∃ row ∈ after, row.For db server
  latest : ∀ row ∈ after, ∀ earlier server later, servers = earlier ++ server :: later → row.For db server →
    (∀ other ∈ later, ¬row.For db other) → row.Shows db server
  kept : ∀ row ∈ before, ∃ same ∈ after, same.Alike row ∧ same.createdAt = row.createdAt
  added : ∀ row ∈ after, (∃ former ∈ before, row.Alike former) ∨ ∃ server ∈ servers, row.id = server.id
  others : after.filter (fun row => !db.same row.connectionID connectionID) =
    before.filter fun row => !db.same row.connectionID connectionID

end Definitions

private theorem bind_ok {α β ε : Type} {first : Except ε α} {next : α → Except ε β} {result : β}
    (succeeded : (first >>= next) = .ok result) : ∃ value, first = .ok value ∧ next value = .ok result := by
  cases first with
  | error failure => cases succeeded
  | ok value => exact ⟨value, rfl, succeeded⟩

/-! ## Keys -/

theorem sameRemote_refl (server : IndexedServer) : sameRemote db server server = true := by
  simp [sameRemote, db.same_refl]

theorem IndexRow.Alike.for_iff {left right : IndexRow} (alike : left.Alike right) (server : IndexedServer) :
    left.For db server ↔ right.For db server := by
  obtain ⟨_, connection, scope, external⟩ := alike
  simp only [IndexRow.For, sameRemote, connection, scope, external]

theorem IndexRow.Alike.trans {left middle right : IndexRow} (first : left.Alike middle)
    (second : middle.Alike right) : left.Alike right :=
  ⟨first.1.trans second.1, first.2.1.trans second.2.1, first.2.2.1.trans second.2.2.1,
    first.2.2.2.trans second.2.2.2⟩

private theorem shows_refreshed (server : IndexedServer) (row : IndexRow) :
    (row.refreshed db server).Shows db server :=
  ⟨rfl, rfl, rfl, rfl, rfl, rfl, rfl, rfl, rfl, rfl⟩

private theorem shows_inserted (server : IndexedServer) : (IndexRow.inserted db server).Shows db server :=
  ⟨rfl, rfl, rfl, rfl, rfl, rfl, rfl, rfl, rfl, rfl⟩

/-! ## Statement by statement -/

private theorem others_kept {change : IndexRow → IndexRow} {rows : List IndexRow}
    (connection : ∀ row, (change row).connectionID = row.connectionID)
    (fixed : ∀ row, db.same row.connectionID connectionID = false → change row = row) :
    (rows.map change).filter (fun row => !db.same row.connectionID connectionID) =
      rows.filter fun row => !db.same row.connectionID connectionID := by
  induction rows with
  | nil => rfl
  | cons row rest ih =>
      rw [List.map_cons, List.filter_cons, List.filter_cons, connection, ih]
      split
      · next other => rw [fixed row (by simpa using other)]
      · rfl

theorem hideStale_replaced (index : Index db) (connectionID : GoString) (at_ : Instant) :
    Replaced db connectionID index.rows [] (index.hideStale connectionID at_).rows := by
  have rows : (index.hideStale connectionID at_).rows =
      index.rows.map fun row => if stale db connectionID row then row.hidden db at_ else row := rfl
  rw [rows]
  constructor
  · intro row member own
    obtain ⟨former, _, rfl⟩ := List.mem_map.mp member
    simp only [List.not_mem_nil, false_and, exists_false, iff_false]
    split at own
    · next hidden =>
        rw [if_pos hidden]
        exact nofun
    · next visible =>
        rw [if_neg visible]
        simpa [stale, own] using visible
  · intro server impossible
    cases impossible
  · intro row member earlier server later impossible
    cases earlier <;> cases impossible
  · intro row member
    refine ⟨_, List.mem_map_of_mem member, ?_⟩
    split
    · exact ⟨⟨rfl, rfl, rfl, rfl⟩, rfl⟩
    · exact ⟨.refl row, rfl⟩
  · intro row member
    obtain ⟨former, formerMember, rfl⟩ := List.mem_map.mp member
    refine .inl ⟨former, formerMember, ?_⟩
    split
    · exact ⟨rfl, rfl, rfl, rfl⟩
    · exact .refl former
  · apply others_kept
    · intro row
      split
      · rfl
      · rfl
    · intro row other
      rw [if_neg]
      simp [stale, other]

/-- An upsert under a new id: a new row, unless there is one for the remote
server. -/
private theorem upsert_cases {index next : Index db} {server : IndexedServer}
    (fresh : ∀ row ∈ index.rows, db.same row.id server.id = false) (upserted : index.upsert server = .ok next) :
    (next.rows = index.rows ++ [.inserted db server] ∧ ∀ row ∈ index.rows, ¬row.For db server) ∨
      next.rows = index.rows.map (fun row =>
        if sameRemote db row.toIndexedServer server then row.refreshed db server else row) ∧
      ∃ row ∈ index.rows, row.For db server := by
  unfold Index.upsert at upserted
  split at upserted
  · next apart =>
      cases upserted
      refine .inl ⟨rfl, fun row member same => ?_⟩
      have clashes := apart row member
      rw [clash, same, Bool.or_true] at clashes
      cases clashes
  · next clashing =>
      right
      split at upserted
      · cases upserted
        refine ⟨rfl, ?_⟩
        by_contra none
        apply clashing
        intro row member
        rw [clash, fresh row member, Bool.false_or, ← Bool.not_eq_true]
        exact fun same => none ⟨row, member, same⟩
      · next row found =>
          have same := List.find?_some found
          rw [fresh row (List.mem_of_find?_eq_some found)] at same
          cases same

private theorem inserted_replaced {rows : List IndexRow} {server : IndexedServer}
    (replaced : Replaced db connectionID before servers rows)
    (own : db.same server.connectionID connectionID = true) (absent : ∀ row ∈ rows, ¬row.For db server) :
    Replaced db connectionID before (servers ++ [server]) (rows ++ [.inserted db server]) := by
  have single : (IndexRow.inserted db server).For db server := sameRemote_refl server
  constructor
  · intro row member ownRow
    cases List.mem_append.mp member with
    | inl former =>
        rw [replaced.visible row former ownRow]
        constructor
        · rintro ⟨other, listed, same⟩
          exact ⟨other, List.mem_append_left _ listed, same⟩
        · rintro ⟨other, listed, same⟩
          cases List.mem_append.mp listed with
          | inl listed => exact ⟨other, listed, same⟩
          | inr last =>
              rw [List.mem_singleton.mp last] at same
              exact absurd same (absent row former)
    | inr new =>
        rw [List.mem_singleton.mp new]
        exact ⟨fun _ => ⟨server, List.mem_append_right _ List.mem_cons_self, single⟩, fun _ => rfl⟩
  · intro other listed
    cases List.mem_append.mp listed with
    | inl listed =>
        obtain ⟨row, member, same⟩ := replaced.present other listed
        exact ⟨row, List.mem_append_left _ member, same⟩
    | inr last =>
        rw [List.mem_singleton.mp last]
        exact ⟨_, List.mem_append_right _ List.mem_cons_self, single⟩
  · intro row member earlier other later split same unlisted
    obtain rfl | ⟨further, last, rfl⟩ := List.eq_nil_or_concat' later
    · obtain ⟨rfl, equal⟩ := List.append_inj' split rfl
      cases equal
      cases List.mem_append.mp member with
      | inl former => exact absurd same (absent row former)
      | inr new =>
          rw [List.mem_singleton.mp new]
          exact shows_inserted server
    · rw [← List.cons_append, ← List.append_assoc] at split
      obtain ⟨listed, equal⟩ := List.append_inj' split rfl
      cases equal
      cases List.mem_append.mp member with
      | inl former =>
          exact replaced.latest row former earlier other further listed same fun each mem =>
            unlisted each (List.mem_append_left _ mem)
      | inr new =>
          rw [List.mem_singleton.mp new] at unlisted
          exact absurd single (unlisted server (List.mem_append_right _ List.mem_cons_self))
  · intro row member
    obtain ⟨same, found, alike⟩ := replaced.kept row member
    exact ⟨same, List.mem_append_left _ found, alike⟩
  · intro row member
    cases List.mem_append.mp member with
    | inl former =>
        obtain old | ⟨other, listed, same⟩ := replaced.added row former
        · exact .inl old
        · exact .inr ⟨other, List.mem_append_left _ listed, same⟩
    | inr new =>
        rw [List.mem_singleton.mp new]
        exact .inr ⟨server, List.mem_append_right _ List.mem_cons_self, rfl⟩
  · rw [List.filter_append, replaced.others]
    simp [IndexRow.inserted, own]

private theorem refreshed_alike (server : IndexedServer) (row : IndexRow) :
    (if sameRemote db row.toIndexedServer server then row.refreshed db server else row).Alike row := by
  split
  · exact ⟨rfl, rfl, rfl, rfl⟩
  · exact .refl row

private theorem refreshed_replaced {rows : List IndexRow} {server : IndexedServer}
    (replaced : Replaced db connectionID before servers rows)
    (own : db.same server.connectionID connectionID = true) (found : ∃ row ∈ rows, row.For db server) :
    Replaced db connectionID before (servers ++ [server]) (rows.map fun row =>
      if sameRemote db row.toIndexedServer server then row.refreshed db server else row) := by
  constructor
  · intro row member ownRow
    obtain ⟨former, formerMember, rfl⟩ := List.mem_map.mp member
    by_cases same : former.For db server
    · rw [if_pos same]
      exact ⟨fun _ => ⟨server, List.mem_append_right _ List.mem_cons_self, same⟩, fun _ => rfl⟩
    · rw [if_neg same] at ownRow ⊢
      rw [replaced.visible former formerMember ownRow]
      constructor
      · rintro ⟨other, listed, ofOther⟩
        exact ⟨other, List.mem_append_left _ listed, ofOther⟩
      · rintro ⟨other, listed, ofOther⟩
        cases List.mem_append.mp listed with
        | inl listed => exact ⟨other, listed, ofOther⟩
        | inr last =>
            rw [List.mem_singleton.mp last] at ofOther
            exact absurd ofOther same
  · intro other listed
    cases List.mem_append.mp listed with
    | inl listed =>
        obtain ⟨row, member, same⟩ := replaced.present other listed
        exact ⟨_, List.mem_map_of_mem member, ((refreshed_alike server row).for_iff other).mpr same⟩
    | inr last =>
        rw [List.mem_singleton.mp last]
        obtain ⟨row, member, same⟩ := found
        exact ⟨_, List.mem_map_of_mem member, ((refreshed_alike server row).for_iff server).mpr same⟩
  · intro row member earlier other later split same unlisted
    obtain ⟨former, formerMember, rfl⟩ := List.mem_map.mp member
    have ofFormer := ((refreshed_alike server former).for_iff other).mp same
    obtain rfl | ⟨further, last, rfl⟩ := List.eq_nil_or_concat' later
    · obtain ⟨rfl, equal⟩ := List.append_inj' split rfl
      cases equal
      rw [if_pos ofFormer]
      exact shows_refreshed server former
    · rw [← List.cons_append, ← List.append_assoc] at split
      obtain ⟨listed, equal⟩ := List.append_inj' split rfl
      cases equal
      have not : ¬former.For db server := fun isFor =>
        unlisted server (List.mem_append_right _ List.mem_cons_self)
          (((refreshed_alike server former).for_iff server).mpr isFor)
      rw [if_neg not] at unlisted ⊢
      exact replaced.latest former formerMember earlier other further listed ofFormer fun each mem =>
        unlisted each (List.mem_append_left _ mem)
  · intro row member
    obtain ⟨same, sameMember, alike, created⟩ := replaced.kept row member
    refine ⟨_, List.mem_map_of_mem sameMember, (refreshed_alike server same).trans alike, ?_⟩
    split
    · exact created
    · exact created
  · intro row member
    obtain ⟨former, formerMember, rfl⟩ := List.mem_map.mp member
    have alike : (if sameRemote db former.toIndexedServer server then former.refreshed db server else former).Alike
        former := refreshed_alike server former
    obtain ⟨old, oldMember, oldAlike⟩ | ⟨other, listed, same⟩ := replaced.added former formerMember
    · exact .inl ⟨old, oldMember, alike.trans oldAlike⟩
    · exact .inr ⟨other, List.mem_append_left _ listed, alike.1.trans same⟩
  · rw [others_kept, replaced.others]
    · intro row
      exact (refreshed_alike server row).2.1
    · intro row other
      rw [if_neg]
      intro same
      simp only [sameRemote, Bool.and_eq_true] at same
      rw [db.same_trans same.1.1 own] at other
      cases other

/-! ## The transaction -/

/-- No generated id is one that a row has or that was generated before. -/
def Distinct (db : Database) (before : List IndexRow) (servers : List IndexedServer) : Prop :=
  (∀ row ∈ before, ∀ server ∈ servers, db.same row.id server.id = false) ∧
    servers.Pairwise fun left right => db.same left.id right.id = false

private theorem replaced_fresh {rows : List IndexRow} {server : IndexedServer} {rest : List IndexedServer}
    (replaced : Replaced db connectionID before servers rows)
    (distinct : Distinct db before (servers ++ server :: rest)) :
    ∀ row ∈ rows, db.same row.id server.id = false := by
  intro row member
  have listed : server ∈ servers ++ server :: rest := List.mem_append_right _ List.mem_cons_self
  obtain ⟨former, formerMember, alike⟩ | ⟨other, otherListed, same⟩ := replaced.added row member
  · rw [alike.1]
    exact distinct.1 former formerMember server listed
  · rw [same]
    exact (List.pairwise_append.mp distinct.2).2.2 other otherListed server List.mem_cons_self

theorem upsertAll_replaced {fails : Nat → Option Failure} {statement : Nat} {rest : List IndexedServer}
    {index final : Index db} (replaced : Replaced db connectionID before servers index.rows)
    (distinct : Distinct db before (servers ++ rest))
    (upserted : upsertAll fails connectionID statement rest index = .ok final) :
    Replaced db connectionID before (servers ++ rest) final.rows := by
  induction rest generalizing statement servers index with
  | nil =>
      cases upserted
      rwa [List.append_nil]
  | cons server rest ih =>
      simp only [upsertAll] at upserted
      split at upserted
      · cases upserted
      · next valid =>
          split at upserted
          · cases upserted
          · split at upserted
            · cases upserted
            · next next written =>
                have own : db.same server.connectionID connectionID = true := by
                  simp only [not_or, ne_eq, Classical.not_not] at valid
                  rw [valid.1]
                  exact db.same_refl connectionID
                have step : Replaced db connectionID before (servers ++ [server]) next.rows := by
                  obtain ⟨rows, absent⟩ | ⟨rows, found⟩ :=
                    upsert_cases (replaced_fresh replaced distinct) written
                  · rw [rows]
                    exact inserted_replaced replaced own absent
                  · rw [rows]
                    exact refreshed_replaced replaced own found
                have further := ih step (by rwa [List.append_assoc]) upserted
                rwa [List.append_assoc] at further

theorem applyCompleteSync_replaced {fails : Nat → Option Failure} {snapshot : SyncSnapshot}
    {tables after : Tables db} (distinct : Distinct db tables.servers.rows snapshot.servers)
    (applied : applyCompleteSync fails snapshot tables = (.ok (), after)) :
    Replaced db snapshot.connectionID tables.servers.rows snapshot.servers after.servers.rows := by
  unfold applyCompleteSync at applied
  split at applied
  · cases applied
  · next committed done =>
      cases applied
      unfold commitSync at done
      obtain ⟨_, _, done⟩ := bind_ok done
      obtain ⟨_, _, done⟩ := bind_ok done
      obtain ⟨servers, upserted, done⟩ := bind_ok done
      obtain ⟨_, _, done⟩ := bind_ok done
      dsimp only at done
      split at done
      · cases done
      · obtain ⟨_, _, done⟩ := bind_ok done
        cases done
        exact upsertAll_replaced (hideStale_replaced _ _ _) distinct upserted

/-- What was not committed is not there. -/
theorem applyCompleteSync_failed {fails : Nat → Option Failure} {snapshot : SyncSnapshot}
    {tables after : Tables db} {failure : GoError}
    (applied : applyCompleteSync fails snapshot tables = (.error failure, after)) : after = tables := by
  unfold applyCompleteSync at applied
  split at applied
  · cases applied
    rfl
  · cases applied

theorem Replaced.congr {other : GoString} (replaced : Replaced db connectionID before servers after)
    (same : db.same connectionID other = true) : Replaced db other before servers after := by
  have alike : ∀ id, db.same id connectionID = db.same id other := by
    intro id
    simp only [Database.same, decide_eq_true_eq] at same ⊢
    rw [same]
  constructor
  · intro row member own
    exact replaced.visible row member ((alike row.connectionID).trans own)
  · exact replaced.present
  · exact replaced.latest
  · exact replaced.kept
  · exact replaced.added
  · simpa only [alike] using replaced.others

end NodeAtlas.Inventory
