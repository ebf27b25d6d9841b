import MyHomeHub.Common.Pagination
import MyHomeHub.JavaScript.Map
import MyHomeHub.Zigbee.RenameRequests

/-!
# Listing the pairable devices

`getPairableDevices` lists the devices of the cache that are not stored, page by page. The
cache is a `Map` that the last device list of the bridge has filled.
-/

namespace MyHomeHub.Zigbee

open JavaScript DeviceSchema DevicesService

/-- `PairableDevice` -/
structure PairableDevice where
  zigbeeIeeeAddress : String
  zigbeeFriendlyName : String
  deriving DecidableEq, Repr

/-- The `Map` that `ZigbeePairableDevices.save` keeps. -/
def pairableDevicesMap (zigbeeDevices : List ZigbeeDevice) : Map String PairableDevice :=
  Map.ofEntries ((zigbeeDevices.filter (·.isEligible)).map fun device =>
    (device.ieeeAddress, ⟨device.ieeeAddress, device.friendlyName⟩))

/-- The cache after the messages: a restart empties it. -/
def cachedDevices (messages : List HubMessage) : Map String PairableDevice :=
  (lastDevices messages).elim Map.empty pairableDevicesMap

/-- `getPairableDevices` -/
def getPairableDevices (cache : Map String PairableDevice) (devices : DeviceStore)
    (options : PaginationDto) : PaginationResponseDto PairableDevice :=
  let cachedZigbeeDevices := cache.values
  if cachedZigbeeDevices.isEmpty then .ofItems [] options.page options.pageSize (some 0)
  else
    let zigbeeDeviceIds := cachedZigbeeDevices.map (·.zigbeeIeeeAddress)
    let existingZigbeeDevicesIds := (devices.docs.map (·.zigbeeIeeeAddress)).filter fun address =>
      zigbeeDeviceIds.any fun id => address = .value id
    let pairableDevices := cachedZigbeeDevices.filter fun device =>
      !existingZigbeeDevicesIds.contains (.value device.zigbeeIeeeAddress)
    .ofItems pairableDevices options.page options.pageSize none

/-! ## The cache -/

theorem lookup_map_entries {α β : Type} (entries : List (String × α)) (make : String → α → β)
    (key : String) :
    (entries.map fun entry => (entry.1, make entry.1 entry.2)).lookup key =
      (entries.lookup key).map (make key) := by
  induction entries with
  | nil => rfl
  | cons entry rest ih =>
      rw [List.map_cons, Map.lookup_cons_eq, Map.lookup_cons_eq, ih]
      split_ifs with hsame
      · rw [hsame]
        rfl
      · rfl

/-- The cache has the names that the last list reports, each under its address. -/
theorem mem_pairable_devices_map_iff {zigbeeDevices : List ZigbeeDevice} {address : String}
    {device : PairableDevice} :
    (address, device) ∈ (pairableDevicesMap zigbeeDevices).entries ↔
      device.zigbeeIeeeAddress = address ∧
        (savePairableDevices zigbeeDevices).lookup address = some device.zigbeeFriendlyName := by
  have hget : (pairableDevicesMap zigbeeDevices).get address =
      ((savePairableDevices zigbeeDevices).lookup address).map (PairableDevice.mk address) := by
    rw [pairableDevicesMap, Map.get_of_entries, ← lookup_map_entries, savePairableDevices,
      namesByAddress, List.map_reverse, List.map_map]
    rfl
  rw [← Map.get_eq_some_iff, hget, Option.map_eq_some_iff]
  obtain ⟨ieeeAddress, friendlyName⟩ := device
  constructor
  · rintro ⟨name, hname, hdevice⟩
    cases hdevice
    exact ⟨rfl, hname⟩
  · rintro ⟨rfl, hname⟩
    exact ⟨friendlyName, hname, rfl⟩

theorem mem_cached_values_iff {messages : List HubMessage} {device : PairableDevice} :
    device ∈ (cachedDevices messages).values ↔
      ReportsName messages device.zigbeeIeeeAddress device.zigbeeFriendlyName := by
  unfold cachedDevices ReportsName
  cases lastDevices messages with
  | none => exact iff_of_false nofun nofun
  | some zigbeeDevices =>
      simp only [Option.elim_some, Map.values, List.mem_map, Prod.exists, exists_eq_right,
        mem_pairable_devices_map_iff, exists_eq_left', Option.some.injEq]

/-- No address is cached twice. -/
theorem cached_addresses_nodup (messages : List HubMessage) :
    ((cachedDevices messages).values.map (·.zigbeeIeeeAddress)).Nodup := by
  unfold cachedDevices
  cases lastDevices messages with
  | none => exact List.nodup_nil
  | some zigbeeDevices =>
      have hkeys : ((pairableDevicesMap zigbeeDevices).values.map (·.zigbeeIeeeAddress)) =
          (pairableDevicesMap zigbeeDevices).entries.map Prod.fst := by
        rw [Map.values, List.map_map]
        exact List.map_congr_left fun entry hentry => (mem_pairable_devices_map_iff.mp hentry).1
      rw [Option.elim_some, hkeys]
      exact (pairableDevicesMap zigbeeDevices).distinct

/-! ## The pages -/

/-- The cached devices that are not stored. -/
def unpairedDevices (cache : Map String PairableDevice) (devices : DeviceStore) :
    List PairableDevice :=
  cache.values.filter fun device =>
    devices.docs.all fun stored => stored.zigbeeIeeeAddress ≠ .value device.zigbeeIeeeAddress

theorem get_pairable_devices_eq (cache : Map String PairableDevice) (devices : DeviceStore)
    (options : PaginationDto) :
    getPairableDevices cache devices options =
      .ofItems (unpairedDevices cache devices) options.page options.pageSize none := by
  unfold getPairableDevices unpairedDevices
  dsimp only
  cases hempty : cache.values.isEmpty with
  | true =>
      rw [if_pos rfl, List.isEmpty_iff.mp hempty, List.filter_nil]
      exact PaginationResponseDto.of_no_items _ _
  | false =>
      rw [if_neg Bool.false_ne_true]
      congr 1
      refine List.filter_congr fun device hdevice => ?_
      rw [Bool.eq_iff_iff, Bool.not_eq_true', ← Bool.not_eq_true, List.contains_iff_mem,
        List.mem_filter, List.mem_map, List.all_eq_true]
      simp only [List.any_map, List.any_eq_true, Function.comp_apply, decide_eq_true_eq,
        Optional.value.injEq]
      constructor
      · intro hnone stored hstored hsame
        exact hnone ⟨⟨stored, hstored, hsame⟩, device, hdevice, rfl⟩
      · rintro hall ⟨⟨stored, hstored, hsame⟩, -⟩
        exact hall stored hstored hsame

section

variable [ExternalCalls]

/-- The pages of the pairable devices list each device once that the last device list reports as
eligible, under its last name, unless a device with its address is stored. It makes no difference
what else the hub has handled. -/
theorem pairable_devices_listed (devices : DeviceStore) (configs : List DeviceConfig)
    (messages : List HubMessage) (options : PaginationDto) :
    let hub := hubAfter devices configs messages
    let pageAfter (n : ℕ) := getPairableDevices (cachedDevices messages) hub.devices
      { options with page := n + 1, page_min := Nat.le_add_left 1 n }
    ∃ listed : List PairableDevice,
      (∀ n, (pageAfter n).totalItems = listed.length) ∧
      (List.range (pageAfter 0).totalPages).flatMap (fun n => (pageAfter n).items) = listed ∧
      (listed.map (·.zigbeeIeeeAddress)).Nodup ∧
      ∀ address name, ⟨address, name⟩ ∈ listed ↔
        ReportsName messages address name ∧
          ∀ stored ∈ hub.devices, stored.zigbeeIeeeAddress ≠ .value address := by
  intro hub pageAfter
  have hpage (n : ℕ) : pageAfter n =
      .ofItems (unpairedDevices (cachedDevices messages) hub.devices) (n + 1) options.pageSize
        none :=
    get_pairable_devices_eq _ _ _
  refine ⟨unpairedDevices (cachedDevices messages) hub.devices, fun n => ?_, ?_, ?_,
    fun address name => ?_⟩
  · rw [hpage]
    rfl
  · simp only [hpage]
    refine Eq.trans ?_
      (@PaginationResponseDto.flat_map_items _ _ 1 _ options.page_size_min)
    rw [List.range'_eq_map_range, List.flatMap_map]
    simp only [Nat.add_comm 1]
  · exact (cached_addresses_nodup messages).sublist (List.filter_sublist.map _)
  · rw [unpairedDevices, List.mem_filter, mem_cached_values_iff, List.all_eq_true]
    simp only [ne_eq, decide_eq_true_eq]
    rfl

end

end MyHomeHub.Zigbee
