import MyHomeHub.Common.Pagination
import MyHomeHub.DeviceConfigs.Interfaces

/-!
# Listing devices

`getDevices` returns a page of the devices that match a filter, with their configs if they are
asked for. `getAllDevices` reads page after page until it has every device. The devices are
those stored, in the order in which queries return them.
-/

namespace MyHomeHub.DevicesService

open JavaScript

/-- `GetDevicesDto` -/
structure GetDevicesDto extends PaginationDto where
  room : Option Room := none
  includeConfig : Bool := false

/-- `DeviceFilter`: the condition on the room, and the ones on other fields as a query decides
them. -/
structure DeviceFilter where
  room : Option Room := none
  others : Device → Bool := fun _ => true

/-- Whether a query with these conditions returns a device. -/
def DeviceFilter.isMetBy (conditions : DeviceFilter) (device : Device) : Bool :=
  conditions.room.all (fun room => device.room = .value room) && conditions.others device

/-- `DeviceConfigResponseDto` -/
structure DeviceConfigResponseDto where
  commands : Option (List DeviceConfigItem) := none
  controls : Option (List DeviceConfigItem) := none
  measurements : Option (List DeviceConfigItem) := none
  deriving DecidableEq, Repr

/-- A section of the config, unless it has no items. -/
def nonEmptySection (items : Option (List DeviceConfigItem)) : Option (List DeviceConfigItem) :=
  items.filter fun items => items.length ≠ 0

/-- `fromConfig` for a config that was found. -/
def DeviceConfigResponseDto.fromConfig (config : DeviceConfig) : Option DeviceConfigResponseDto :=
  let response : DeviceConfigResponseDto :=
    { commands := nonEmptySection config.commands
      controls := nonEmptySection config.controls
      measurements := nonEmptySection config.measurements }
  if response.commands.isNone && response.controls.isNone && response.measurements.isNone then
    none
  else some response

/-- `DeviceResponseDto` -/
structure DeviceResponseDto extends Device where
  config : Option DeviceConfigResponseDto := none

/-- A device without its config. -/
def plain (device : Device) : DeviceResponseDto :=
  { device with }

/-- `getConfigs` -/
def getConfigs (configs : List DeviceConfig) (keys : List DeviceKey) : List DeviceConfig :=
  configs.filter fun config => keys.contains config.key

/-- `attachDeviceConfigs`. The hashes of two keys are the same only if the keys are, so the maps
have the keys themselves; the last config of a key is the one a map holds. -/
def attachDeviceConfigs (configs : List DeviceConfig) (devices : List Device) :
    List DeviceResponseDto :=
  let found := getConfigs configs (devices.map (·.configKey))
  let configsByHash := found.map fun config =>
    (config.key, DeviceConfigResponseDto.fromConfig config)
  devices.map fun device =>
    { device with config := (configsByHash.reverse.lookup device.configKey).join }

/-- `getDevices` -/
def getDevices (devices : List Device) (configs : List DeviceConfig)
    (filter : DeviceFilter) (options : GetDevicesDto) :
    PaginationResponseDto DeviceResponseDto :=
  let conditions := match options.room with
    | some room => { filter with room := some room }
    | none => filter
  let found := ((devices.filter conditions.isMetBy).drop options.skipRecords).take
    options.pageSize
  let total := (devices.filter conditions.isMetBy).length
  let items := if options.includeConfig then attachDeviceConfigs configs found
    else found.map plain
  .ofItems items options.page options.pageSize (some total)

/-- The options of a query of `getAllDevices`, for the page behind `n` others. -/
def fullPage (n : Nat) : GetDevicesDto :=
  { page := n + 1
    pageSize := MAX_PAGE_SIZE
    page_min := Nat.le_add_left 1 n }

/-- `getAllDevices` -/
def getAllDevices (devices : List Device) (configs : List DeviceConfig)
    (filter : DeviceFilter) : PaginationResponseDto DeviceResponseDto :=
  let firstPage := getDevices devices configs filter (fullPage 0)
  let allDevices :=
    if firstPage.totalPages > 1 then
      let remainingPages := (List.range (firstPage.totalPages - 1)).map fun i =>
        getDevices devices configs filter (fullPage (i + 1))
      remainingPages.foldl (fun allDevices page => allDevices ++ page.items) firstPage.items
    else firstPage.items
  .ofItems allDevices 1 allDevices.length (some allDevices.length)

variable {devices : List Device} {configs : List DeviceConfig} {filter : DeviceFilter} {n : Nat}

/-! ## One page -/

theorem items_of_full_page :
    (getDevices devices configs filter (fullPage n)).items =
      (pageAt MAX_PAGE_SIZE (devices.filter filter.isMetBy) n).map plain :=
  rfl

/-! ## All pages -/

/-- The first page and the remaining ones are as many pages as the first one says. -/
theorem collected_pages {total : Nat} (pages : Nat → PaginationResponseDto DeviceResponseDto)
    (hempty : total = 0 → (pages 0).items = []) :
    (if total > 1 then
      ((List.range (total - 1)).map fun i => pages (i + 1)).foldl
        (fun allDevices page => allDevices ++ page.items) (pages 0).items
    else (pages 0).items) = (List.range total).flatMap fun n => (pages n).items := by
  cases total with
  | zero => exact hempty rfl
  | succ remaining =>
      rw [List.range_succ_eq_map, List.flatMap_cons, List.flatMap_map, Nat.add_sub_cancel]
      split
      · rw [List.foldl_append_eq_append, List.map_map]
        rfl
      · rename_i hone
        cases Nat.eq_zero_of_not_pos fun h => hone (Nat.succ_lt_succ h)
        exact (List.append_nil _).symm

/-- `getAllDevices` returns one page with every device that matches. -/
theorem get_all_devices_eq :
    getAllDevices devices configs filter =
      { items := (devices.filter filter.isMetBy).map plain
        page := 1
        pageSize := (devices.filter filter.isMetBy).length
        totalPages := MIN_PAGE
        totalItems := (devices.filter filter.isMetBy).length } := by
  have hreach : (devices.filter filter.isMetBy).length ≤ _ * MAX_PAGE_SIZE :=
    PaginationResponseDto.le_pages_for _ (by decide)
  have hall : (List.range (PaginationResponseDto.pagesFor
      (devices.filter filter.isMetBy).length MAX_PAGE_SIZE)).flatMap (fun n =>
        (getDevices devices configs filter (fullPage n)).items) =
      (devices.filter filter.isMetBy).map plain := by
    rw [funext fun n => items_of_full_page, ← List.map_flatMap]
    exact congrArg (List.map plain) (flat_map_pages hreach)
  have hempty : PaginationResponseDto.pagesFor (devices.filter filter.isMetBy).length
      MAX_PAGE_SIZE = 0 → (getDevices devices configs filter (fullPage 0)).items = [] := by
    intro hpages
    rw [hpages, Nat.zero_mul] at hreach
    rw [items_of_full_page, List.eq_nil_of_length_eq_zero (Nat.le_zero.mp hreach)]
    rfl
  have hitems := collected_pages (fun n => getDevices devices configs filter (fullPage n)) hempty
  have hresponse : getAllDevices devices configs filter = _ :=
    congrArg (fun allDevices : List DeviceResponseDto => PaginationResponseDto.ofItems
      allDevices 1 allDevices.length (some allDevices.length)) (hitems.trans hall)
  rw [hresponse, PaginationResponseDto.of_all_items, List.length_map]

/-- `getAllDevices` returns every matching device once, in order, with their number, and the pages
that are built from a list are the list. -/
theorem devices_of_all_pages {α : Type*} (devices : List Device) (configs : List DeviceConfig)
    (filter : DeviceFilter) (items : List α) (page pageSize : Nat) (hsize : 1 ≤ pageSize) :
    (getAllDevices devices configs filter).items =
        (devices.filter filter.isMetBy).map plain ∧
      (getAllDevices devices configs filter).totalItems =
        (devices.filter filter.isMetBy).length ∧
      (List.range' 1 (PaginationResponseDto.ofItems items page pageSize none).totalPages).flatMap
        (fun n => (PaginationResponseDto.ofItems items n pageSize none).items) = items := by
  rw [get_all_devices_eq]
  exact ⟨rfl, rfl, PaginationResponseDto.flat_map_items hsize⟩

/-- A lamp in the kitchen. -/
def kitchenLamp : Device :=
  { externalId := "lamp"
    name := .value "Lamp"
    type := .value .led
    room := .value .kitchen
    transportProtocol := .value .mqtt }

/-- The devices in the kitchen, and a list of two pages. -/
theorem devices_of_kitchen :
    (getAllDevices [kitchenLamp, { kitchenLamp with externalId := "other", room := .undefined }] []
        { room := some .kitchen }).items = [plain kitchenLamp] ∧
      (getAllDevices [kitchenLamp, { kitchenLamp with externalId := "other", room := .undefined }]
        [] { room := some .kitchen }).totalItems = 1 ∧
      (List.range' 1 (PaginationResponseDto.ofItems ["a", "b", "c"] 1 2 none).totalPages).flatMap
        (fun n => (PaginationResponseDto.ofItems ["a", "b", "c"] n 2 none).items) =
        ["a", "b", "c"] :=
  devices_of_all_pages [kitchenLamp, { kitchenLamp with externalId := "other", room := .undefined }]
    [] { room := some .kitchen } ["a", "b", "c"] 1 2 (by decide)

end MyHomeHub.DevicesService
