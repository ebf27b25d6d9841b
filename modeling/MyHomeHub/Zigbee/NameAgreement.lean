import MyHomeHub.Zigbee.NameProtocol

/-!
# Agreement on friendly names

Whatever steps the hub and the bridge take, and in whatever order, once nothing is under way
between them every stored Zigbee device has the name that the bridge has for its address
(`names_agree_when_quiet`). The invariant says why a device can have another name than the
list that was received last: then a list, a handler, a call or a request is still under way that
will settle it.
-/

namespace MyHomeHub.Zigbee

open JavaScript DeviceSchema DevicesService Library

/-! ## What is under way -/

/-- The name that a list has for an address. -/
def DeviceList.nameOf (list : DeviceList) (ieeeAddress : String) : Option String :=
  (namesByAddress list.devices).lookup ieeeAddress

/-- A pending call is going to write the name to the device, whatever name it has now. -/
def WillWrite (device : Device) (friendlyName : String) (update : PendingUpdate) : Prop :=
  update.event.externalId = device.externalId ∧
    update.event.update.zigbeeFriendlyName = some (.value friendlyName) ∧
      match update.state with
      | .emitted => True
      | .loaded loaded => loaded.zigbeeFriendlyName ≠ .value friendlyName
      | .saved _ => False

/-- A saved document has the address and the name. -/
def HasName (saved : Device) (ieeeAddress friendlyName : String) : Prop :=
  ieeeAddress ≠ "" ∧ saved.zigbeeIeeeAddress = .value ieeeAddress ∧
    saved.zigbeeFriendlyName = .value friendlyName

/-- A rename request for the address and the name is on its way, or a document was saved with them
and is still to be published. -/
def WillPublish (s : RenameSystem) (ieeeAddress friendlyName : String) : Prop :=
  (ieeeAddress, friendlyName) ∈ s.requests ∨
    (∃ update ∈ s.updates, ∃ saved, update.state = .saved saved ∧
      HasName saved ieeeAddress friendlyName) ∨
    ∃ saved ∈ s.added, HasName saved ieeeAddress friendlyName

/-- Something is under way that concerns a device with an address for which the list that was
received last has the name. -/
inductive UnderWay (s : RenameSystem) (device : Device) (ieeeAddress friendlyName : String) :
    Prop where
  | list (hlists : s.lists ≠ [])
  | sync (list : DeviceList) (hlast : s.lastList = some list) (hsync : list ∈ s.syncs)
  | write (update : PendingUpdate) (hupdate : update ∈ s.updates)
      (hwrites : WillWrite device friendlyName update)
  | publish (name : String) (hname : device.zigbeeFriendlyName = .value name) (hset : name ≠ "")
      (hpublishes : WillPublish s ieeeAddress name)

/-- A stored device has the name of the list that was received last, or something is under way. -/
def FollowsLastList (s : RenameSystem) : Prop :=
  ∀ list, s.lastList = some list → ∀ device ∈ s.devices, ∀ ieeeAddress friendlyName,
    device.zigbeeIeeeAddress = .value ieeeAddress →
      list.nameOf ieeeAddress = some friendlyName →
        device.zigbeeFriendlyName = .value friendlyName ∨
          UnderWay s device ieeeAddress friendlyName

/-- The hub knows the names of the bridge or will hear of them, it follows the list that it has
received last, and a loaded document has the address that is stored, unless the address was
dropped since. -/
structure RenameInvariant (s : RenameSystem) : Prop where
  published : s.lists.getLast?.or s.lastList = some s.bridge
  follows : FollowsLastList s
  loaded : ∀ update ∈ s.updates, ∀ loaded, update.state = .loaded loaded →
    loaded.externalId = update.event.externalId ∧
      ∀ stored ∈ s.devices, stored.externalId = loaded.externalId →
        stored.zigbeeIeeeAddress = loaded.zigbeeIeeeAddress ∨
          stored.zigbeeIeeeAddress = .undefined

variable {s t : RenameSystem} {list : DeviceList} {device device' saved : Device}
  {ieeeAddress friendlyName name : String} {update : PendingUpdate} {i : Nat}

/-! ## Names on a list -/

theorem name_of_iff : list.nameOf ieeeAddress = some friendlyName ↔
    ∃ reported ∈ list.devices, reported.ieeeAddress = ieeeAddress ∧
      reported.friendlyName = friendlyName :=
  lookup_names_by_address_iff list.distinct

theorem name_of_ne_empty (h : list.nameOf ieeeAddress = some friendlyName) : friendlyName ≠ "" := by
  obtain ⟨reported, hreported, -, rfl⟩ := name_of_iff.mp h
  exact list.named reported hreported

/-- A cached name is the one on the list. -/
theorem name_of_cached
    (h : (savePairableDevices list.devices).lookup ieeeAddress = some friendlyName) :
    list.nameOf ieeeAddress = some friendlyName := by
  have hdistinct : ((list.devices.filter (·.isEligible)).map (·.ieeeAddress)).Nodup :=
    list.distinct.sublist (List.filter_sublist.map _)
  obtain ⟨reported, hreported, hsame⟩ := (lookup_names_by_address_iff hdistinct).mp h
  exact name_of_iff.mpr ⟨reported, List.mem_of_mem_filter hreported, hsame⟩

/-- A rename that changes nothing is of a device that has the name. -/
theorem name_of_rename_same {hname : name ≠ ""}
    (hsame : (list.rename ieeeAddress name hname).devices = list.devices)
    (h : list.nameOf ieeeAddress = some friendlyName) : friendlyName = name := by
  obtain ⟨reported, hreported, haddress, -⟩ := name_of_iff.mp h
  have hrenamed : { reported with friendlyName := name } ∈ list.devices := by
    rw [← hsame]
    exact List.mem_map.mpr ⟨reported, hreported, if_pos haddress⟩
  have hother : list.nameOf ieeeAddress = some name :=
    name_of_iff.mpr ⟨_, hrenamed, haddress, rfl⟩
  exact Option.some.inj (h.symm.trans hother)

/-! ## What stays under way -/

/-- An element that is taken out of a list is the only one that is lost. -/
theorem mem_erase_idx_or {α : Type} {items : List α} {item other : α}
    (hitem : items[i]? = some item) (hother : other ∈ items) :
    other = item ∨ other ∈ items.eraseIdx i := by
  obtain ⟨hi, rfl⟩ := List.getElem?_eq_some_iff.mp hitem
  exact List.mem_cons.mp ((List.getElem_cons_eraseIdx_perm hi).mem_iff.mpr hother)

theorem WillPublish.mono (h : WillPublish s ieeeAddress name)
    (hrequests : ∀ request ∈ s.requests, request ∈ t.requests)
    (hupdates : ∀ update ∈ s.updates, ∀ saved, update.state = .saved saved → update ∈ t.updates)
    (hadded : ∀ saved ∈ s.added, saved ∈ t.added) : WillPublish t ieeeAddress name := by
  rcases h with h | ⟨update, hupdate, saved, hstate, hsaved⟩ | ⟨saved, hmem, hsaved⟩
  · exact .inl (hrequests _ h)
  · exact .inr (.inl ⟨update, hupdates update hupdate saved hstate, saved, hstate, hsaved⟩)
  · exact .inr (.inr ⟨saved, hadded saved hmem, hsaved⟩)

/-- What is under way for a device stays so when nothing is taken out, also for a document with the
same id and name. -/
theorem UnderWay.mono (h : UnderWay s device ieeeAddress friendlyName)
    (hlists : s.lists ≠ [] → t.lists ≠ []) (hlast : t.lastList = s.lastList)
    (hsyncs : ∀ list ∈ s.syncs, list ∈ t.syncs)
    (hwrites : ∀ update ∈ s.updates, WillWrite device friendlyName update →
      UnderWay t device' ieeeAddress friendlyName)
    (hpublishes : ∀ name, device.zigbeeFriendlyName = .value name → name ≠ "" →
      WillPublish s ieeeAddress name → WillPublish t ieeeAddress name)
    (hname : device'.zigbeeFriendlyName = device.zigbeeFriendlyName) :
    UnderWay t device' ieeeAddress friendlyName := by
  cases h with
  | list h => exact .list (hlists h)
  | sync list h hsync => exact .sync list (hlast.trans h) (hsyncs list hsync)
  | write update hupdate h => exact hwrites update hupdate h
  | publish name h hset hpublish =>
      exact .publish name (hname.trans h) hset (hpublishes name h hset hpublish)

/-- A step that takes nothing out, keeps the list that was received last and the bridge, and at most
adds calls, requests and new devices. -/
structure Extends (s t : RenameSystem) : Prop where
  lists : t.lists = s.lists
  lastList : t.lastList = s.lastList
  syncs : t.syncs = s.syncs
  bridge : t.bridge = s.bridge
  updates : ∀ update ∈ s.updates, update ∈ t.updates
  requests : ∀ request ∈ s.requests, request ∈ t.requests
  added : ∀ saved ∈ s.added, saved ∈ t.added

theorem Extends.under_way (h : Extends s t)
    (hname : device'.zigbeeFriendlyName = device.zigbeeFriendlyName)
    (hid : device'.externalId = device.externalId)
    (hunder : UnderWay s device ieeeAddress friendlyName) :
    UnderWay t device' ieeeAddress friendlyName := by
  refine hunder.mono (fun hlists => h.lists ▸ hlists) h.lastList (fun list => h.syncs ▸ id)
    (fun update hupdate hwrites => ?_) (fun name _ _ hpublishes => ?_) hname
  · obtain ⟨hsame, hrest⟩ := hwrites
    exact .write update (h.updates update hupdate) ⟨hsame.trans hid.symm, hrest⟩
  · exact hpublishes.mono h.requests (fun update hupdate _ _ => h.updates update hupdate) h.added

/-- A step that stores nothing has to keep what is under way for a device with another name than
the list has. -/
theorem FollowsLastList.of_under_way (h : FollowsLastList s) (hlast : t.lastList = s.lastList)
    (hdevices : t.devices = s.devices)
    (hunder : ∀ list, s.lastList = some list → ∀ device ∈ s.devices, ∀ ieeeAddress friendlyName,
      list.nameOf ieeeAddress = some friendlyName → device.zigbeeIeeeAddress = .value ieeeAddress →
        device.zigbeeFriendlyName ≠ .value friendlyName →
          UnderWay s device ieeeAddress friendlyName →
            UnderWay t device ieeeAddress friendlyName) : FollowsLastList t := by
  intro list hlist device hdevice ieeeAddress friendlyName haddress hlisted
  rw [hlast] at hlist
  rw [hdevices] at hdevice
  refine or_iff_not_imp_left.mpr fun hother => ?_
  refine hunder list hlist device hdevice ieeeAddress friendlyName hlisted haddress hother ?_
  exact (h list hlist device hdevice ieeeAddress friendlyName haddress hlisted).resolve_left hother

/-! ## Saved documents -/

/-- A document that obeys the schema and has an address has a name, too. -/
theorem has_name_of_valid (hvalid : invalidPaths saved = [])
    (haddress : saved.zigbeeIeeeAddress = .value ieeeAddress) :
    ∃ name, name ≠ "" ∧ HasName saved ieeeAddress name := by
  obtain ⟨hname, hown⟩ := zigbee_rules_of_valid hvalid
  rw [haddress] at hname hown
  have hset : ieeeAddress ≠ "" := by
    rintro rfl
    simp [isConditionalText] at hown
  have hnonEmpty : (Optional.value ieeeAddress).isNonEmpty = true := decide_eq_true hset
  rw [hnonEmpty] at hname
  cases hfriendly : saved.zigbeeFriendlyName with
  | undefined | null =>
      rw [hfriendly] at hname
      cases hname
  | value name =>
      refine ⟨name, ?_, hset, haddress, hfriendly⟩
      rintro rfl
      rw [hfriendly] at hname
      simp [isConditionalText] at hname

/-- A document is saved only in the place of one that is stored. -/
theorem stored_of_save {devices devices' : DeviceStore} {loaded : Device}
    (h : save devices loaded device = .ok (devices', saved)) :
    ∃ stored, findByExternalId devices loaded.externalId = some stored := by
  unfold save at h
  dsimp only at h
  split at h
  · split at h
    · rename_i updated hupdate
      obtain ⟨stored, hstored, hkey, -⟩ :=
        Collection.mem_of_update_first external_id_key_mem hupdate
      exact ⟨stored, find_by_external_id_iff.mpr ⟨hstored, external_id_key_eq.mp hkey⟩⟩
    · cases h
    · cases h
  · cases h

/-- The address of a saved document is the loaded one, unless it was dropped. A name that the update
sets is not dropped. -/
theorem saved_fields [ExternalCalls] {configs : List DeviceConfig} {dto : UpdateDeviceDto}
    {origin : Option DeviceUpdateOrigin} {loaded : Device} {assigned : AssignedDevice}
    (name : String)
    (hprepare : prepareUpdate configs loaded dto origin = .ok assigned)
    (hsaved : saved = dropScopedDependencyFields (some loaded) assigned.device) :
    (saved.zigbeeIeeeAddress = loaded.zigbeeIeeeAddress ∨
      saved.zigbeeIeeeAddress = .undefined) ∧
    (dto.zigbeeFriendlyName = some (.value name) → loaded.zigbeeFriendlyName ≠ .value name →
      saved.zigbeeFriendlyName = .value name) := by
  obtain ⟨haddress, hname, -⟩ := prepared_zigbee_fields hprepare
  subst hsaved
  constructor
  · rw [← haddress]
    unfold dropScopedDependencyFields
    dsimp only
    split
    · exact .inr rfl
    · exact .inl rfl
  · intro hdto hother
    rw [hdto] at hname
    have hmodified : isDirectModified (some loaded) assigned.device (·.zigbeeFriendlyName) =
        true := by
      rw [isDirectModified, hname]
      exact decide_eq_true hother
    unfold dropScopedDependencyFields
    dsimp only
    rw [hmodified, Bool.not_true, Bool.and_false, if_neg Bool.false_ne_true]
    exact hname

/-- The stored address after a save is the one before, unless it was dropped. -/
theorem written_address {loaded stored : Device}
    (hsaved : saved.zigbeeIeeeAddress = loaded.zigbeeIeeeAddress ∨
      saved.zigbeeIeeeAddress = .undefined) :
    (writeModified loaded saved stored).zigbeeIeeeAddress = stored.zigbeeIeeeAddress ∨
      (writeModified loaded saved stored).zigbeeIeeeAddress = .undefined := by
  by_cases hsame : saved.zigbeeIeeeAddress = loaded.zigbeeIeeeAddress
  · exact .inl (if_pos hsame)
  · exact .inr ((if_neg hsame).trans (hsaved.resolve_left hsame))

/-- A saved name is published unless it is cached. -/
theorem mem_published_of_saved (hsaved : HasName saved ieeeAddress name)
    (hcached : s.hub.pairableDevices.lookup ieeeAddress ≠ some name) :
    (ieeeAddress, name) ∈ publishedRequests (renameUpdated s.hub saved) := by
  obtain ⟨hset, haddress, hname⟩ := hsaved
  have hrenames : renameUpdated s.hub saved =
      [.renameDevice (.value ieeeAddress) (.value name)] := by
    have hconnected : s.hub.bridgeConnected = true := rfl
    unfold renameUpdated
    rw [haddress, hname]
    cases hlookup : s.hub.pairableDevices.lookup ieeeAddress with
    | none => simp [hset, hlookup, renameDevice, hconnected]
    | some cached =>
        have hother : cached ≠ name := fun hsame => hcached (hsame ▸ hlookup)
        simp [hset, hlookup, hother, renameDevice, hconnected]
  rw [hrenames]
  exact List.mem_singleton.mpr rfl

/-! ## Steps that take nothing out -/

/-- A stored document before and after a step that leaves its id and its Zigbee fields alone. -/
structure SameZigbeeFields (device old : Device) : Prop where
  externalId : device.externalId = old.externalId
  name : device.zigbeeFriendlyName = old.zigbeeFriendlyName
  address : device.zigbeeIeeeAddress = old.zigbeeIeeeAddress

/-- A device that was added. No pending call is for it. -/
structure IsAdded (t : RenameSystem) (device : Device) : Prop where
  added : device ∈ t.added
  valid : invalidPaths device = []
  fresh : ∀ update ∈ t.updates, update.event.externalId ≠ device.externalId

theorem RenameInvariant.extend (h : RenameInvariant s) (hextends : Extends s t)
    (hdevices : ∀ device ∈ t.devices,
      (∃ old ∈ s.devices, SameZigbeeFields device old) ∨ IsAdded t device)
    (hupdates : ∀ update ∈ t.updates, update ∈ s.updates ∨ update.state = .emitted) :
    RenameInvariant t where
  published := by
    rw [hextends.lists, hextends.lastList, hextends.bridge]
    exact h.published
  follows := by
    intro list hlast device hdevice ieeeAddress friendlyName haddress hlisted
    rcases hdevices device hdevice with ⟨old, hold, hsame⟩ | hnew
    · rw [hextends.lastList] at hlast
      rw [hsame.name]
      exact (h.follows list hlast old hold ieeeAddress friendlyName (hsame.address ▸ haddress)
        hlisted).imp_right (hextends.under_way hsame.name hsame.externalId)
    · obtain ⟨name, hset, hname⟩ := has_name_of_valid hnew.valid haddress
      exact .inr (.publish name hname.2.2 hset (.inr (.inr ⟨device, hnew.added, hname⟩)))
  loaded := by
    intro update hupdate loaded hstate
    rcases hupdates update hupdate with hold | hemitted
    · obtain ⟨hid, hstored⟩ := h.loaded update hold loaded hstate
      refine ⟨hid, fun stored hmem hsameId => ?_⟩
      rcases hdevices stored hmem with ⟨old, hold, hsame⟩ | hnew
      · rw [hsame.address]
        exact hstored old hold (hsame.externalId ▸ hsameId)
      · exact absurd (hid.symm.trans hsameId.symm) (hnew.fresh update hupdate)
    · rw [hemitted] at hstate
      cases hstate

/-! ## Steps of a call -/

section

variable [ExternalCalls] {event : DeviceUpdateRequestedEvent} {loaded : Device}

/-- A call that has loaded the device is still under way, and what was loaded is stored. -/
theorem RenameInvariant.load (h : RenameInvariant s)
    (hupdate : s.updates[i]? = some ⟨event, .emitted⟩) :
    RenameInvariant (s.advance i ⟨event, .emitted⟩) where
  published := h.published
  follows := by
    refine h.follows.of_under_way rfl rfl ?_
    intro list hlast device hdevice ieeeAddress friendlyName hlisted haddress hother hunder
    refine hunder.mono id rfl (fun _ => id) (fun update hmem hwrites => ?_)
      (fun name _ _ hpublishes => ?_) rfl
    · rcases mem_erase_idx_or hupdate hmem with rfl | hkept
      · -- the call loads this very device
        obtain ⟨hid, hname, -⟩ := hwrites
        have hfound : findByExternalId s.devices event.externalId = some device :=
          find_by_external_id_iff.mpr ⟨hdevice, hid.symm⟩
        refine .write ⟨event, .loaded device⟩ ?_ ⟨hid, hname, hother⟩
        show _ ∈ s.updates.eraseIdx i ++ (Option.map _ (Option.map _ _)).toList
        rw [hfound]
        exact List.mem_append_right _ (List.mem_singleton.mpr rfl)
      · exact .write update (List.mem_append_left _ hkept) hwrites
    · refine hpublishes.mono (fun _ => List.mem_append_left _) (fun update hmem saved hsaved => ?_)
        (fun _ => id)
      rcases mem_erase_idx_or hupdate hmem with rfl | hkept
      · cases hsaved
      · exact List.mem_append_left _ hkept
  loaded := by
    intro update hmem loaded hstate
    rcases List.mem_append.mp hmem with hmem | hmem
    · exact h.loaded update ((List.eraseIdx_sublist _ _).mem hmem) loaded hstate
    · rw [Option.mem_toList] at hmem
      obtain ⟨state, hnext, rfl⟩ := Option.map_eq_some_iff.mp hmem
      obtain ⟨found, hfound, rfl⟩ := Option.map_eq_some_iff.mp hnext
      obtain rfl : found = loaded := UpdateState.loaded.inj hstate
      obtain ⟨hfoundMem, hid⟩ := find_by_external_id_iff.mp hfound
      refine ⟨hid, fun stored hstored hsame => .inl ?_⟩
      rw [eq_of_external_id hfoundMem hstored hsame]

/-- A name that is published is on its way to the bridge, or it is cached already. -/
theorem RenameInvariant.publish (h : RenameInvariant s)
    (hupdate : s.updates[i]? = some ⟨event, .saved saved⟩) :
    RenameInvariant (s.advance i ⟨event, .saved saved⟩) where
  published := h.published
  follows := by
    refine h.follows.of_under_way rfl rfl ?_
    intro list hlast device hdevice ieeeAddress friendlyName hlisted haddress hother hunder
    refine hunder.mono id rfl (fun _ => id) (fun update hmem hwrites => ?_)
      (fun name hname hset hpublishes => ?_) rfl
    · rcases mem_erase_idx_or hupdate hmem with rfl | hkept
      · exact hwrites.2.2.elim
      · exact .write update (List.mem_append_left _ hkept) hwrites
    · rcases hpublishes with hrequest | ⟨update, hmem, document, hstate, hdocument⟩ | hadded
      · exact .inl (List.mem_append_left _ hrequest)
      · rcases mem_erase_idx_or hupdate hmem with rfl | hkept
        · -- the name is not the one on the list, so it is not the cached one
          obtain rfl : saved = document := UpdateState.saved.inj hstate
          refine .inl (List.mem_append_right _ (mem_published_of_saved hdocument fun hcached => ?_))
          have hcache : s.hub.pairableDevices = savePairableDevices list.devices :=
            congrArg (fun last => last.elim [] fun list => savePairableDevices list.devices) hlast
          rw [hcache] at hcached
          rw [name_of_cached hcached] at hlisted
          exact hother (Option.some.inj hlisted ▸ hname)
        · exact .inr (.inl ⟨update, List.mem_append_left _ hkept, document, hstate, hdocument⟩)
      · exact .inr (.inr hadded)
  loaded := by
    intro update hmem loaded hstate
    rw [RenameSystem.advance, UpdateState.step] at hmem
    dsimp only [Option.map_none, Option.toList_none] at hmem
    rw [List.append_nil] at hmem
    exact h.loaded update ((List.eraseIdx_sublist _ _).mem hmem) loaded hstate

omit [ExternalCalls] in
/-- A call that is rejected was not to write a name. -/
theorem RenameInvariant.reject (h : RenameInvariant s)
    (hupdate : s.updates[i]? = some ⟨event, .loaded loaded⟩)
    (hnameless : event.update.zigbeeFriendlyName = none) :
    RenameInvariant { s with updates := s.updates.eraseIdx i } where
  published := h.published
  follows := by
    refine h.follows.of_under_way rfl rfl ?_
    intro list hlast device hdevice ieeeAddress friendlyName hlisted haddress hother hunder
    refine hunder.mono id rfl (fun _ => id) (fun update hmem hwrites => ?_)
      (fun name _ _ hpublishes => ?_) rfl
    · rcases mem_erase_idx_or hupdate hmem with rfl | hkept
      · cases hnameless.symm.trans hwrites.2.1
      · exact .write update hkept hwrites
    · refine hpublishes.mono (fun _ => id) (fun update hmem saved hsaved => ?_) (fun _ => id)
      rcases mem_erase_idx_or hupdate hmem with rfl | hkept
      · cases hsaved
      · exact hkept
  loaded := fun update hmem => h.loaded update ((List.eraseIdx_sublist _ _).mem hmem)

omit [ExternalCalls] in
/-- What is under way when a call saves its document stays so, unless it is this call itself. -/
theorem under_way_after_save {devices : DeviceStore}
    (hupdate : s.updates[i]? = some ⟨event, .loaded loaded⟩)
    (hunder : UnderWay s device ieeeAddress friendlyName)
    (hwrites : ¬ WillWrite device friendlyName ⟨event, .loaded loaded⟩)
    (hid : device'.externalId = device.externalId)
    (hname : device'.zigbeeFriendlyName = device.zigbeeFriendlyName) :
    UnderWay { s with devices, updates := s.updates.eraseIdx i ++ [⟨event, .saved saved⟩] } device'
      ieeeAddress friendlyName := by
  refine hunder.mono id rfl (fun _ => id) (fun update hmem hother => ?_)
    (fun name _ _ hpublishes => ?_) hname
  · rcases mem_erase_idx_or hupdate hmem with rfl | hkept
    · exact absurd hother hwrites
    · exact .write update (List.mem_append_left _ hkept) ⟨hother.1.trans hid.symm, hother.2⟩
  · refine hpublishes.mono (fun _ => id) (fun update hmem saved hsaved => ?_) (fun _ => id)
    rcases mem_erase_idx_or hupdate hmem with rfl | hkept
    · cases hsaved
    · exact List.mem_append_left _ hkept

/-- A saved name is still to be published, and a name that was not modified is the stored one. -/
theorem RenameInvariant.save (h : RenameInvariant s)
    (hupdate : s.updates[i]? = some ⟨event, .loaded loaded⟩) {assigned : AssignedDevice}
    {devices : DeviceStore}
    (hprepare : prepareUpdate s.configs loaded event.update event.origin = .ok assigned)
    (hsave : DeviceSchema.save s.devices loaded assigned.device = .ok (devices, saved)) :
    RenameInvariant { s with
      devices, updates := s.updates.eraseIdx i ++ [⟨event, .saved saved⟩] } := by
  obtain ⟨hevent, hloaded⟩ := h.loaded _ (List.mem_of_getElem? hupdate) loaded rfl
  obtain ⟨stored, hstored⟩ := stored_of_save hsave
  obtain ⟨hdocument, hvalid, hdevices⟩ := save_over_stored hstored hsave
  obtain ⟨hstoredMem, hid⟩ := find_by_external_id_iff.mp hstored
  have hstoredAddress := hloaded stored hstoredMem hid
  have hsavedAddress := (saved_fields "" hprepare hdocument).1
  have hwritten : (writeModified loaded saved stored).zigbeeIeeeAddress =
      stored.zigbeeIeeeAddress ∨ (writeModified loaded saved stored).zigbeeIeeeAddress =
        .undefined := written_address hsavedAddress
  refine ⟨h.published,
    fun list hlast device hdevice ieeeAddress friendlyName haddress hlisted => ?_,
    fun update hmem other hstate => ?_⟩
  · rcases (hdevices device).mp hdevice with rfl | ⟨hkept, hne⟩
    · have hown : stored.zigbeeIeeeAddress = .value ieeeAddress := by
        rcases hwritten with hsame | hdropped
        · exact hsame.symm.trans haddress
        · cases hdropped.symm.trans haddress
      by_cases hmodified : saved.zigbeeFriendlyName = loaded.zigbeeFriendlyName
      · have hname : (writeModified loaded saved stored).zigbeeFriendlyName =
            stored.zigbeeFriendlyName := if_pos hmodified
        rw [hname]
        refine (h.follows list hlast stored hstoredMem ieeeAddress friendlyName hown
          hlisted).imp_right fun hunder => under_way_after_save hupdate hunder ?_
            (rfl : _ = stored.externalId) hname
        rintro ⟨-, hnamed, hother⟩
        have hset := (saved_fields friendlyName hprepare hdocument).2 hnamed hother
        exact hother (hmodified.symm.trans hset)
      · have hname : (writeModified loaded saved stored).zigbeeFriendlyName =
            saved.zigbeeFriendlyName := if_neg hmodified
        have hsavedOwn : saved.zigbeeIeeeAddress = .value ieeeAddress := by
          rw [hown] at hstoredAddress
          have hloadedOwn := hstoredAddress.resolve_right nofun
          by_cases hsame : saved.zigbeeIeeeAddress = loaded.zigbeeIeeeAddress
          · exact hsame.trans hloadedOwn.symm
          · exact (if_neg hsame).symm.trans haddress
        obtain ⟨name, hset, hsaved⟩ := has_name_of_valid hvalid hsavedOwn
        refine .inr (.publish name (hname.trans hsaved.2.2) hset (.inr (.inl ?_)))
        exact ⟨_, List.mem_append_right _ (List.mem_singleton.mpr rfl), saved, rfl, hsaved⟩
    · refine (h.follows list hlast device hkept ieeeAddress friendlyName haddress
        hlisted).imp_right fun hunder => under_way_after_save hupdate hunder ?_ rfl rfl
      exact fun hwrites => hne (hwrites.1.symm.trans hevent.symm)
  · rcases List.mem_append.mp hmem with hmem | hmem
    · obtain ⟨hsame, hothers⟩ := h.loaded update ((List.eraseIdx_sublist _ _).mem hmem) other hstate
      refine ⟨hsame, fun document hdocumentMem hdocumentId => ?_⟩
      rcases (hdevices document).mp hdocumentMem with rfl | ⟨hkept, -⟩
      · rcases hwritten with hkept | hdropped
        · rw [hkept]
          exact hothers stored hstoredMem hdocumentId
        · exact .inr hdropped
      · exact hothers document hkept hdocumentId
    · cases List.mem_singleton.mp hmem
      cases hstate

/-- Whatever the next step of a call is. -/
theorem RenameInvariant.advance (h : RenameInvariant s) (hupdate : s.updates[i]? = some update)
    (hallowed : RenameAllowed s (.advance i)) : RenameInvariant (s.advance i update) := by
  obtain ⟨event, state⟩ := update
  cases state with
  | emitted => exact h.load hupdate
  | saved saved => exact h.publish hupdate
  | loaded loaded =>
      -- a rejected call leaves no name behind
      have hrejected (hnot : ¬ IsAccepted s event loaded) :
          RenameInvariant { s with updates := s.updates.eraseIdx i } :=
        h.reject hupdate (not_not.mp fun hnamed => hnot (hallowed _ loaded hupdate rfl hnamed))
      unfold RenameSystem.advance
      simp only [UpdateState.step]
      cases hprepare : prepareUpdate s.configs loaded event.update event.origin with
      | error error =>
          simp only [Option.map_none, Option.toList_none, List.append_nil]
          refine hrejected fun haccepted => ?_
          obtain ⟨assigned, result, hok, -⟩ := haccepted
          cases hprepare.symm.trans hok
      | ok assigned =>
          cases hsave : DeviceSchema.save s.devices loaded assigned.device with
          | error error =>
              simp only [hsave, Option.map_none, Option.toList_none, List.append_nil]
              refine hrejected fun haccepted => ?_
              obtain ⟨other, result, hok, hsaved⟩ := haccepted
              cases hprepare.symm.trans hok
              cases hsave.symm.trans hsaved
          | ok result =>
              obtain ⟨devices, saved⟩ := result
              simp only [hsave, Option.map_some, Option.toList_some, List.append_nil]
              exact h.save hupdate hprepare hsave

/-! ## New devices -/

theorem RenameInvariant.add (h : RenameInvariant s) {externalId : String} {dto : CreateDeviceDto}
    {origin : Option DeviceUpdateOrigin}
    (hallowed : RenameAllowed s (.addDevice externalId dto origin)) :
    RenameInvariant (s.add externalId dto origin) := by
  unfold RenameSystem.add
  dsimp only
  cases hresult : (addDevice s.hub externalId dto origin).result with
  | error error => exact h
  | ok saved =>
      obtain ⟨device, hprepare, hsave⟩ := add_device_ok hresult
      obtain ⟨hsaved, hvalid, hdevices⟩ := save_new_ok hsave
      have hid : saved.externalId = externalId := by
        obtain ⟨assigned, hassigned, rfl⟩ := prepare_device_ok hprepare
        obtain ⟨controls, measurements, -, -, rfl⟩ := assign_payloads_ok hassigned
        rw [hsaved]
        rfl
      refine h.extend ⟨rfl, rfl, rfl, rfl, fun _ => id, fun _ => id,
        fun _ => List.mem_append_left _⟩ (fun other hother => ?_) fun _ => .inl
      rcases (hdevices other).mp hother with hold | rfl
      · exact .inl ⟨other, hold, rfl, rfl, rfl⟩
      · refine .inr ⟨List.mem_append_right _ (List.mem_singleton.mpr rfl), hvalid, ?_⟩
        exact fun update hupdate => hid ▸ hallowed update hupdate

/-- The name of a new device is on its way to the bridge once it is published. -/
theorem RenameInvariant.publish_added (h : RenameInvariant s) (hadded : s.added[i]? = some saved) :
    RenameInvariant (s.step (.publishAdded i)) := by
  unfold RenameSystem.step
  dsimp only
  rw [hadded]
  refine ⟨h.published, h.follows.of_under_way rfl rfl ?_, h.loaded⟩
  intro list hlast device hdevice ieeeAddress friendlyName hlisted haddress hother hunder
  refine hunder.mono id rfl (fun _ => id) (fun update hmem => .write update hmem)
    (fun name _ hset hpublishes => ?_) rfl
  rcases hpublishes with hrequest | hsaved | ⟨document, hmem, hdocument⟩
  · exact .inl (List.mem_append_left _ hrequest)
  · exact .inr (.inl hsaved)
  · rcases mem_erase_idx_or hadded hmem with rfl | hkept
    · obtain ⟨-, haddress, hname⟩ := hdocument
      refine .inl (List.mem_append_right _ ?_)
      have hnonEmpty : (Optional.value name).isNonEmpty = true := decide_eq_true hset
      rw [haddress, hname, if_pos hnonEmpty]
      exact List.mem_singleton.mpr rfl
    · exact .inr (.inr ⟨document, hkept, hdocument⟩)

/-! ## Steps of the bridge and its lists -/

omit [ExternalCalls] in
/-- After a publication, the new list is under way. -/
theorem RenameInvariant.change (h : RenameInvariant s) {bridge : DeviceList}
    {requests : List (String × String)} :
    RenameInvariant { s with requests, bridge, lists := s.lists ++ [bridge] } where
  published := by
    rw [List.getLast?_concat]
    rfl
  follows := fun _ _ _ _ _ _ _ _ => .inr (.list (List.append_ne_nil_of_right_ne_nil _ nofun))
  loaded := h.loaded

/-- A request that changes nothing on the bridge was for the name on its list. -/
theorem RenameInvariant.bridge_rename (h : RenameInvariant s) :
    RenameInvariant (s.step (.bridgeRename true)) := by
  unfold RenameSystem.step
  dsimp only
  split
  · exact h
  · rename_i address renamed requests hrequests
    have hhandled (hsettled : renamed ≠ "" → s.lists = [] → ∀ friendlyName,
        s.bridge.nameOf address = some friendlyName → friendlyName = renamed) :
        RenameInvariant { s with requests } := by
      refine ⟨h.published, h.follows.of_under_way rfl rfl ?_, h.loaded⟩
      intro list hlast device hdevice ieeeAddress friendlyName hlisted haddress hother hunder
      by_cases hlists : s.lists = []
      · have hbridge : list = s.bridge := by
          have hpublished := h.published
          rw [hlists, List.getLast?_nil, Option.none_or, hlast] at hpublished
          exact Option.some.inj hpublished
        refine hunder.mono id rfl (fun _ => id) (fun update hmem => .write update hmem)
          (fun name hname hset hpublishes => ?_) rfl
        rcases hpublishes with hrequest | hsaved
        · rw [hrequests] at hrequest
          rcases List.mem_cons.mp hrequest with hsame | hkept
          · cases hsame
            rw [hbridge] at hlisted
            rw [hsettled hset hlists friendlyName hlisted] at hother
            exact absurd hname hother
          · exact .inl hkept
        · exact .inr hsaved
      · exact .list hlists
    split
    · split
      · rename_i hsame
        exact hhandled fun _ _ _ hlisted => name_of_rename_same hsame hlisted
      · exact h.change
    · rename_i hempty
      exact hhandled fun hset => absurd ⟨rfl, hset⟩ hempty

/-- The received list is still to be compared with the stored devices. -/
theorem RenameInvariant.receive_list (h : RenameInvariant s) :
    RenameInvariant (s.step .receiveList) := by
  unfold RenameSystem.step
  dsimp only
  split
  · exact h
  · rename_i received lists hlists
    refine ⟨?_, fun list hlast device _ ieeeAddress friendlyName _ _ => ?_, h.loaded⟩
    · have hpublished := h.published
      rw [hlists, List.getLast?_cons] at hpublished
      dsimp only
      cases hlast : lists.getLast? with
      | none =>
          rw [hlast] at hpublished
          exact hpublished
      | some last =>
          rw [hlast] at hpublished
          exact hpublished
    · exact .inr (.sync list hlast (by
        cases hlast
        exact List.mem_append_right _ (List.mem_singleton.mpr rfl)))

/-- A device that has drifted from the list gets a call that will write its name. -/
theorem RenameInvariant.sync (h : RenameInvariant s) (hsync : s.syncs[i]? = some list) :
    RenameInvariant (s.step (.sync i)) := by
  unfold RenameSystem.step
  dsimp only
  rw [hsync]
  refine ⟨h.published, h.follows.of_under_way rfl rfl ?_, fun update hmem loaded hstate => ?_⟩
  · intro last hlast device hdevice ieeeAddress friendlyName hlisted haddress hother hunder
    cases hunder with
    | list hlists => exact .list hlists
    | write update hupdate hwrites =>
        exact .write update (List.mem_append_left _ hupdate) hwrites
    | publish name hname hset hpublishes =>
        exact .publish name hname hset (hpublishes.mono (fun _ => id)
          (fun _ hupdate _ _ => List.mem_append_left _ hupdate) fun _ => id)
    | sync other hsame hmem =>
        cases hsame.symm.trans hlast
        rcases mem_erase_idx_or hsync hmem with rfl | hkept
        · have hdrifted : driftedName last.devices device = some friendlyName :=
            drifted_name_iff.mpr ⟨name_of_ne_empty hlisted, hother, ieeeAddress, haddress, hlisted⟩
          have hevent := event_iff.mpr ⟨device, hdevice, friendlyName, hdrifted, rfl⟩
          exact .write _ (List.mem_append_right _ (List.mem_map_of_mem hevent)) ⟨rfl, rfl, trivial⟩
        · exact .sync last hlast hkept
  · rcases List.mem_append.mp hmem with hold | hnew
    · exact h.loaded update hold loaded hstate
    · obtain ⟨event, -, rfl⟩ := List.mem_map.mp hnew
      cases hstate

/-! ## Runs -/

/-- No action of an allowed step breaks the invariant. -/
theorem RenameInvariant.step (h : RenameInvariant s) {action : RenameAction}
    (hallowed : RenameAllowed s action) : RenameInvariant (s.step action) := by
  have hsame : ∀ device ∈ s.devices, ∃ old ∈ s.devices, SameZigbeeFields device old :=
    fun device hdevice => ⟨device, hdevice, rfl, rfl, rfl⟩
  cases action with
  | call event =>
      refine h.extend
        ⟨rfl, rfl, rfl, rfl, fun _ => List.mem_append_left _, fun _ => id, fun _ => id⟩
        (fun device hdevice => .inl (hsame device hdevice)) fun update hupdate => ?_
      refine (List.mem_append.mp hupdate).imp_right fun hnew => ?_
      rw [List.mem_singleton.mp hnew]
  | advance i =>
      unfold RenameSystem.step
      dsimp only
      cases hupdate : s.updates[i]? with
      | none => exact h
      | some update => exact h.advance hupdate hallowed
  | addDevice externalId dto origin => exact h.add hallowed
  | publishAdded i =>
      cases hadded : s.added[i]? with
      | none =>
          unfold RenameSystem.step
          dsimp only
          rw [hadded]
          exact h
      | some saved => exact h.publish_added hadded
  | removeDevice externalId =>
      exact h.extend ⟨rfl, rfl, rfl, rfl, fun _ => id, fun _ => id, fun _ => id⟩
        (fun device hdevice => .inl (hsame device (Collection.mem_filter.mp hdevice).1))
        fun _ => .inl
  | writePayloads controls measurements =>
      refine h.extend ⟨rfl, rfl, rfl, rfl, fun _ => id, fun _ => id, fun _ => id⟩
        (fun device hdevice => ?_) fun _ => .inl
      obtain ⟨old, hold, rfl⟩ := List.mem_map.mp hdevice
      exact .inl ⟨old, hold, rfl, rfl, rfl⟩
  | setConfigs configs =>
      exact h.extend ⟨rfl, rfl, rfl, rfl, fun _ => id, fun _ => id, fun _ => id⟩
        (fun device hdevice => .inl (hsame device hdevice)) fun _ => .inl
  | receiveList => exact h.receive_list
  | sync i =>
      cases hsync : s.syncs[i]? with
      | none =>
          unfold RenameSystem.step
          dsimp only
          rw [hsync]
          exact h
      | some list => exact h.sync hsync
  | bridgeRename accepts =>
      obtain rfl : accepts = true := hallowed
      exact h.bridge_rename
  | bridgeChange bridge => exact h.change

omit [ExternalCalls] in
/-- At the start, the list of the bridge is under way. -/
theorem RenameInvariant.start (h : s.IsStart) : RenameInvariant s where
  published := by
    rw [h.list]
    rfl
  follows := by
    refine fun _ _ _ _ _ _ _ _ => .inr (.list fun hlists => ?_)
    have hlast := h.list
    rw [hlists] at hlast
    cases hlast
  loaded := by
    intro update hupdate
    rw [h.updates] at hupdate
    cases hupdate

/-- Whatever order the steps of calls, handlers and messages come in, once nothing is under way
every stored device has the name that the bridge has for its address, if neither the hub nor the
bridge has rejected a name. -/
theorem names_agree_when_quiet (hstart : s.IsStart) (hrun : Reaches RenameStep RenameAllowed s t)
    (hquiet : t.IsQuiet) : HoldReportedNames t.bridge.devices t.devices := by
  have hinvariant : RenameInvariant t := by
    refine @Reaches.invariant _ _ _ _ _ _ RenameInvariant hrun (.start hstart) ?_
    intro s action t hs hallowed hstep
    rw [hstep]
    exact hs.step hallowed
  intro device hdevice reported hreported haddress
  have hlast : t.lastList = some t.bridge := by
    have hpublished := hinvariant.published
    rwa [hquiet.lists] at hpublished
  have hlisted : t.bridge.nameOf reported.ieeeAddress = some reported.friendlyName :=
    name_of_iff.mpr ⟨reported, hreported, rfl, rfl⟩
  refine (hinvariant.follows t.bridge hlast device hdevice _ _ haddress hlisted).resolve_right
    fun hunder => ?_
  cases hunder with
  | list hlists => exact hlists hquiet.lists
  | sync list _ hsync =>
      rw [hquiet.syncs] at hsync
      cases hsync
  | write update hupdate _ =>
      rw [hquiet.updates] at hupdate
      cases hupdate
  | publish name _ _ hpublishes =>
      rcases hpublishes with hrequest | ⟨update, hupdate, -⟩ | ⟨saved, hsaved, -⟩
      · rw [hquiet.requests] at hrequest
        cases hrequest
      · rw [hquiet.updates] at hupdate
        cases hupdate
      · rw [hquiet.added] at hsaved
        cases hsaved

end

/-! ## A renamed lamp -/

/-- The bridge has a new name for one of the lamps. -/
def renamedLampList : DeviceList :=
  ⟨renamedLamp, by decide, by decide⟩

/-- The hub has just subscribed, and has the lamps under their old names. -/
def lampSystem : RenameSystem where
  devices := twoLamps
  configs := []
  lastList := none
  syncs := []
  updates := []
  added := []
  requests := []
  bridge := renamedLampList
  lists := [renamedLampList]

/-- The lamp gets the name that the bridge has for it. -/
theorem names_agree_when_quiet_lamp :
    let step := @RenameSystem.step .unused
    let s := step (step lampSystem .receiveList) (.sync 0)
    let t := step (step (step s (.advance 0)) (.advance 0)) (.advance 0)
    lampSystem.IsStart ∧ Reaches (@RenameStep .unused) (@RenameAllowed .unused) lampSystem t ∧
      t.IsQuiet ∧ HoldReportedNames t.bridge.devices t.devices := by
  intro step s t
  let event : DeviceUpdateRequestedEvent :=
    { externalId := "hall"
      update := { zigbeeFriendlyName := some (.value "hall_light") }
      propagate := false }
  have hstart : lampSystem.IsStart := ⟨rfl, rfl⟩
  have hreceived : Reaches (@RenameStep .unused) (@RenameAllowed .unused) lampSystem s :=
    .tail (.single ⟨.receiveList, trivial, rfl⟩) ⟨.sync 0, trivial, rfl⟩
  have hloaded : @RenameAllowed .unused s (.advance 0) := by
    intro update device hupdate hstate _
    obtain rfl : ⟨event, .emitted⟩ = update := Option.some.inj hupdate
    cases hstate
  have hsaved : @RenameAllowed .unused (step s (.advance 0)) (.advance 0) := by
    intro update device hupdate hstate _
    obtain rfl : ⟨event, .loaded hallLamp⟩ = update := Option.some.inj hupdate
    cases hstate
    have hisOk : (save twoLamps hallLamp
        { hallLamp with zigbeeFriendlyName := .value "hall_light" }).isOk = true := by
      decide +kernel
    cases hsave : save twoLamps hallLamp
        { hallLamp with zigbeeFriendlyName := .value "hall_light" } with
    | error error =>
        rw [hsave] at hisOk
        cases hisOk
    | ok result => exact ⟨_, result, @prepare_rename _ _ _ .unused _, hsave⟩
  have hpublished : @RenameAllowed .unused (step (step s (.advance 0)) (.advance 0))
      (.advance 0) := by
    intro update device hupdate hstate _
    obtain ⟨saved, rfl⟩ : ∃ saved, update = ⟨event, .saved saved⟩ :=
      ⟨_, (Option.some.inj hupdate).symm⟩
    cases hstate
  have hrun : Reaches (@RenameStep .unused) (@RenameAllowed .unused) lampSystem t :=
    ((hreceived.tail ⟨.advance 0, hloaded, rfl⟩).tail ⟨.advance 0, hsaved, rfl⟩).tail
      ⟨.advance 0, hpublished, rfl⟩
  have hquiet : t.IsQuiet :=
    ⟨by decide +kernel, by decide +kernel, by decide +kernel, by decide +kernel, by decide +kernel⟩
  exact ⟨hstart, hrun, hquiet, @names_agree_when_quiet _ _ .unused hstart hrun hquiet⟩

end MyHomeHub.Zigbee
