import MyHomeHub.Devices.Transport
import MyHomeHub.JavaScript.Hexadecimal

/-!
# The colors that devices read

A Tuya device takes its color as one text of twelve hexadecimal digits, four for the hue,
four for the saturation and four for the brightness. A Shelly LED takes the three bytes of
the red, green and blue channel.
-/

namespace MyHomeHub.ControlService

open JavaScript

/-! ## Tuya -/

/-- A text that a Tuya device reads as a color: twelve lower case digits, in groups of four. -/
structure IsTuyaColor (text : String) (hue saturation brightness : ℕ) : Prop where
  length : text.toList.length = 12
  digits : ∀ c ∈ text.toList, IsLowerHexDigit c
  hue : Number.radixValue 16 (text.toList.take 4) = some hue
  saturation : Number.radixValue 16 ((text.toList.drop 4).take 4) = some saturation
  brightness : Number.radixValue 16 (text.toList.drop 8) = some brightness

/-- `Math.round(q)` of a number that is not negative. -/
def roundNat (q : ℚ) : ℕ :=
  ⌊q + 1 / 2⌋.toNat

theorem round_nat_le {q : ℚ} {n : ℕ} (h : q ≤ n) : roundNat q ≤ n := by
  have hfloor : ⌊q + 1 / 2⌋ ≤ (n : ℤ) := by
    refine Int.lt_add_one_iff.mp (Int.floor_lt.mpr ?_)
    push_cast
    linarith
  unfold roundNat
  omega

theorem le_round_nat {q : ℚ} {n : ℕ} (h : (n : ℚ) ≤ q) : n ≤ roundNat q := by
  have hfloor : (n : ℤ) ≤ ⌊q + 1 / 2⌋ := by
    refine Int.le_floor.mpr ?_
    push_cast
    linarith
  unfold roundNat
  omega

theorem round_nat_cast (n : ℕ) : roundNat n = n :=
  le_antisymm (round_nat_le le_rfl) (le_round_nat le_rfl)

/-- A number that is not negative is printed without a sign. -/
theorem rounded_hex_finite {q : ℚ} (hzero : 0 ≤ q) :
    roundedHex (.finite q) = List.leftpad 4 '0' (Nat.toDigits 16 (roundNat q)) := by
  have hfloor : 0 ≤ ⌊q + 1 / 2⌋ := Int.floor_nonneg.mpr (by linarith)
  have hlower : (Nat.toDigits 16 (roundNat q)).map Char.toLower = Nat.toDigits 16 (roundNat q) := by
    refine (List.map_congr_left fun c hc => ?_).trans (List.map_id _)
    exact Number.to_lower_of_mem_to_digits hc
  have hnat : ⌊q + 1 / 2⌋.natAbs = roundNat q := by
    unfold roundNat
    omega
  unfold roundedHex
  dsimp only
  rw [if_neg (not_lt.mpr hfloor), hnat, List.nil_append, hlower]

theorem rounded_hex_digits {q : ℚ} (hzero : 0 ≤ q) (hbound : q ≤ 1000) :
    (roundedHex (.finite q)).length = 4 ∧
      (∀ c ∈ roundedHex (.finite q), IsLowerHexDigit c) ∧
      Number.radixValue 16 (roundedHex (.finite q)) = some (roundNat q) := by
  have hsmall : roundNat q ≤ 1000 := round_nat_le (by exact_mod_cast hbound)
  rw [rounded_hex_finite hzero]
  exact Number.padded_digits (by omega) (by omega)

/-- Ten times a number between two integers is between ten times the integers. -/
theorem times_ten_bounds {q : ℚ} {low high : ℕ} (hlow : (low : ℚ) ≤ q) (hhigh : q ≤ high)
    (hbound : high ≤ 100) :
    ∃ scaled, timesTen (.finite q) = .finite scaled ∧
      ((10 * low : ℕ) : ℚ) ≤ scaled ∧ scaled ≤ ((10 * high : ℕ) : ℚ) := by
  refine Number.to_double_between ?_ ?_ (by omega)
  · push_cast
    linarith
  · push_cast
    linarith

theorem times_ten_nat {n : ℕ} (h : n ≤ 100) :
    timesTen (.finite n) = .finite ((10 * n : ℕ) : ℚ) := by
  have hscaled : (n : ℚ) * 10 = ((10 * n : ℕ) : ℚ) := by
    push_cast
    ring
  show Number.toDouble ((n : ℚ) * 10) = _
  rw [hscaled]
  exact Number.to_double_nat (by omega)

/-- The brightness is a number of percents, or no number at all. -/
theorem tuya_brightness_cases (device : Device) (controls : DevicePayload) :
    tuyaBrightness device controls = .nan ∨
      ∃ q, tuyaBrightness device controls = .finite q ∧ 1 ≤ q ∧ q ≤ 100 := by
  unfold tuyaBrightness
  dsimp only
  split_ifs with houtside
  · exact .inr ⟨100, rfl, by norm_num, le_rfl⟩
  · generalize Value.toNumber _ = brightness at houtside ⊢
    cases brightness with
    | nan => exact .inl rfl
    | infinity negative => cases negative <;> exact absurd rfl houtside
    | finite q =>
        simp only [Number.lt, Bool.or_eq_true, decide_eq_true_eq, not_or, not_lt] at houtside
        exact .inr ⟨q, rfl, houtside⟩

/-- The text of three groups of digits. -/
theorem is_tuya_color_of_groups {groups : Fin 3 → List Char} {values : Fin 3 → ℕ}
    (h : ∀ i, (groups i).length = 4 ∧ (∀ c ∈ groups i, IsLowerHexDigit c) ∧
      Number.radixValue 16 (groups i) = some (values i)) :
    IsTuyaColor (String.ofList (groups 0 ++ groups 1 ++ groups 2)) (values 0) (values 1)
      (values 2) := by
  obtain ⟨⟨hhue, hhueDigits, hhueValue⟩, ⟨hsat, hsatDigits, hsatValue⟩,
    hlight, hlightDigits, hlightValue⟩ := And.intro (h 0) (And.intro (h 1) (h 2))
  refine ⟨?_, ?_, ?_, ?_, ?_⟩ <;> rw [String.toList_ofList]
  · simp [hhue, hsat, hlight]
  · intro c hc
    rw [List.mem_append, List.mem_append] at hc
    obtain (hc | hc) | hc := hc
    · exact hhueDigits c hc
    · exact hsatDigits c hc
    · exact hlightDigits c hc
  · rw [List.append_assoc, ← hhue, List.take_left]
    exact hhueValue
  · rw [List.append_assoc, ← hhue, List.drop_left, hhue, ← hsat, List.take_left]
    exact hsatValue
  · have hlength : (groups 0 ++ groups 1).length = 8 := by simp [hhue, hsat]
    rw [← hlength, List.drop_left]
    exact hlightValue

/-- The color text is a color that the device reads unless the brightness is no number, and the
device reads what the hub rounds. -/
theorem convert_to_tuya_color_format [ColorCalls] {hexColor text : String} {brightness : Number}
    {hue saturationv : ℚ} (hhsv : ColorCalls.hsv hexColor = some (hue, saturationv))
    (hhue : 0 ≤ hue ∧ hue ≤ 360) (hsaturation : 0 ≤ saturationv ∧ saturationv ≤ 100)
    (hbrightness : brightness = .nan ∨ ∃ q, brightness = .finite q ∧ 1 ≤ q ∧ q ≤ 100)
    (htext : convertToTuyaColorFormat hexColor brightness = .ok text) :
    ((∃ h s v, IsTuyaColor text h s v) ↔ brightness ≠ .nan) ∧
      ∀ h s v, IsTuyaColor text h s v →
        h = roundNat hue ∧ s ≤ 1000 ∧ 10 ≤ v ∧ v ≤ 1000 ∧
          (∀ n : ℕ, saturationv = n → s = 10 * n) ∧
          ∀ n : ℕ, brightness = .finite n → v = 10 * n := by
  rw [convertToTuyaColorFormat, hhsv, Except.ok.injEq] at htext
  subst htext
  obtain ⟨scaled, hscaled, hscaledZero, hscaledBound⟩ :=
    @times_ten_bounds saturationv 0 100 (by exact_mod_cast hsaturation.1)
      (by exact_mod_cast hsaturation.2) le_rfl
  have hhueDigits := rounded_hex_digits hhue.1 (hhue.2.trans (by norm_num))
  have hsatDigits := rounded_hex_digits (q := scaled) (by exact_mod_cast hscaledZero)
    (by exact_mod_cast hscaledBound)
  obtain rfl | ⟨q, rfl, hlow, hhigh⟩ := hbrightness
  · -- the letter n of NaN is no digit
    have hnone (h s v : ℕ) : ¬ IsTuyaColor (String.ofList (roundedHex (.finite hue) ++
        roundedHex (timesTen (.finite saturationv)) ++ roundedHex (timesTen .nan))) h s v := by
      intro hcolor
      have hn := hcolor.digits 'n' (by
        rw [String.toList_ofList]
        exact List.mem_append_right _ (by decide))
      exact absurd hn (by decide)
    exact ⟨iff_of_false (fun ⟨h, s, v, hcolor⟩ => hnone h s v hcolor) (not_not_intro rfl),
      fun h s v hcolor => absurd hcolor (hnone h s v)⟩
  · obtain ⟨light, hlight, hlightLow, hlightHigh⟩ :=
      @times_ten_bounds q 1 100 (by exact_mod_cast hlow) (by exact_mod_cast hhigh) le_rfl
    have hlightZero : 0 ≤ light := le_trans (by norm_num) hlightLow
    have hlightDigits := rounded_hex_digits hlightZero (by exact_mod_cast hlightHigh)
    rw [hscaled, hlight]
    have hcolor := @is_tuya_color_of_groups
      ![roundedHex (.finite hue), roundedHex (.finite scaled), roundedHex (.finite light)]
      ![roundNat hue, roundNat scaled, roundNat light] fun i => by
        fin_cases i
        · exact hhueDigits
        · exact hsatDigits
        · exact hlightDigits
    refine ⟨iff_of_true ⟨_, _, _, hcolor⟩ nofun, fun h s v hread => ?_⟩
    obtain rfl : h = roundNat hue := Option.some.inj (hread.hue.symm.trans hcolor.hue)
    obtain rfl : s = roundNat scaled :=
      Option.some.inj (hread.saturation.symm.trans hcolor.saturation)
    obtain rfl : v = roundNat light :=
      Option.some.inj (hread.brightness.symm.trans hcolor.brightness)
    refine ⟨rfl, round_nat_le hscaledBound, le_round_nat hlightLow, round_nat_le hlightHigh,
      fun n hn => ?_, fun n hn => ?_⟩
    · rw [hn] at hsaturation hscaled
      rw [times_ten_nat (by exact_mod_cast hsaturation.2), Number.finite.injEq] at hscaled
      rw [← hscaled, round_nat_cast]
    · rw [Number.finite.injEq] at hn
      rw [hn] at hhigh hlight
      rw [times_ten_nat (by exact_mod_cast hhigh), Number.finite.injEq] at hlight
      rw [← hlight, round_nat_cast]

/-- The data point of a color reads back as the color: whatever color and brightness are set or
stored, the device gets the hue and saturation of the color library and a brightness of 10 to 1000,
unless the brightness is no number. -/
theorem tuya_color_readable [ColorCalls] {device : Device} {controls : DevicePayload}
    {hue saturationv : ℚ}
    (hhsv : ColorCalls.hsv (tuyaColor device controls) = some (hue, saturationv))
    (hhue : 0 ≤ hue ∧ hue ≤ 360) (hsaturation : 0 ≤ saturationv ∧ saturationv ≤ 100)
    (hset : (controls.get "color").isNullish = false ∨
      (controls.get "brightness").isNullish = false) :
    ∃ payload text, mapTuyaControls device controls = .ok payload ∧
      payload.lookup "24" = some (.string text) ∧
      ((∃ h s v, IsTuyaColor text h s v) ↔ tuyaBrightness device controls ≠ .nan) ∧
      ∀ h s v, IsTuyaColor text h s v →
        h = roundNat hue ∧ s ≤ 1000 ∧ 10 ≤ v ∧ v ≤ 1000 ∧
          (∀ n : ℕ, saturationv = n → s = 10 * n) ∧
          ∀ n : ℕ, tuyaBrightness device controls = .finite n → v = 10 * n := by
  obtain ⟨text, htext⟩ : ∃ text, convertToTuyaColorFormat (tuyaColor device controls)
      (tuyaBrightness device controls) = .ok text := by
    rw [convertToTuyaColorFormat, hhsv]
    exact ⟨_, rfl⟩
  have hread := convert_to_tuya_color_format hhsv hhue hsaturation
    (tuya_brightness_cases device controls) htext
  have hcolor : (!(controls.get "color").isNullish ||
      !(controls.get "brightness").isNullish) = true := by
    rw [Bool.or_eq_true, Bool.not_eq_true', Bool.not_eq_true']
    exact hset
  obtain ⟨entries, hentries⟩ : ∃ entries, mapTuyaControls device controls =
      .ok (.ofAssignments (entries ++ [⟨"24", .string text⟩])) := by
    unfold mapTuyaControls
    dsimp only
    rw [if_pos hcolor, htext]
    exact ⟨_, rfl⟩
  exact ⟨_, text, hentries, Object.lookup_of_assignments_concat entries _ _, hread⟩

/-- A color library for a lamp that is set to green. -/
@[reducible] def ColorCalls.green : ColorCalls where
  hsv hexColor := if hexColor = "#00FF00" then some (120, 100) else none

/-- A Tuya lamp. -/
def tuyaLamp : Device :=
  { externalId := "strip"
    name := .value "Strip"
    type := .value .led
    brand := .value .tuya
    transportProtocol := .value .tuya
    ip := .value "192.168.0.7"
    tuyaDeviceId := .value "bf12"
    tuyaDeviceLocalKey := .value "key" }

/-- The lamp is set to green at 55 percent. -/
def greenControls : DevicePayload :=
  .ofAssignments [⟨"color", .string "#00FF00"⟩, ⟨"brightness", .number (.finite 55)⟩]

/-- The lamp reads the hue 120, the full saturation and the brightness 550. -/
theorem tuya_color_readable_green :
    ∃ payload text, @mapTuyaControls .green tuyaLamp greenControls = .ok payload ∧
      payload.lookup "24" = some (.string text) ∧ IsTuyaColor text 120 1000 550 := by
  have hbrightness : tuyaBrightness tuyaLamp greenControls = .finite ((55 : ℕ) : ℚ) := by
    decide +kernel
  obtain ⟨payload, text, hpayload, htext, hiff, hread⟩ :=
    @tuya_color_readable .green tuyaLamp greenControls 120 100 (by decide +kernel)
      (by norm_num) (by norm_num) (.inl (by decide +kernel))
  obtain ⟨h, s, v, hcolor⟩ := hiff.mpr (by rw [hbrightness]; exact nofun)
  obtain ⟨rfl, -, -, -, hs, hv⟩ := hread h s v hcolor
  obtain rfl := hs 100 (by norm_num)
  obtain rfl := hv 55 hbrightness
  have hhue : roundNat 120 = 120 := round_nat_cast 120
  rw [hhue] at hcolor
  exact ⟨payload, text, hpayload, htext, hcolor⟩

/-! ## Shelly -/

/-- A text that `IsHexColor` accepts, with the values of its digits: three, four, six or eight
digits of either case, behind a sign or without it. -/
structure IsHexColor (text : String) (digits : List Char) (values : List ℕ) : Prop where
  sign : text.toList = digits ∨ text.toList = '#' :: digits
  length : digits.length ∈ [3, 4, 6, 8]
  values : List.Forall₂ (fun digit value => hexDigitValue digit = some value) digits values

/-- The channels of a color without its alpha, where a single digit stands for two of it. -/
def colorChannels : List ℕ → List ℕ
  | [r, g, b] | [r, g, b, _] => [17 * r, 17 * g, 17 * b]
  | r :: r' :: g :: g' :: b :: b' :: _ => [16 * r + r', 16 * g + g', 16 * b + b']
  | _ => []

/-- A channel of two digits. -/
theorem parse_hex_pair {c c' : Char} {high low : ℕ} (hhigh : hexDigitValue c = some high)
    (hlow : hexDigitValue c' = some low) :
    parseHex [c, c'] = .finite ((16 * high + low : ℕ) : ℚ) := by
  obtain ⟨hblank, hsign, -⟩ := hex_digit_value_cases hhigh
  obtain ⟨-, hletter, -⟩ := hex_digit_value_cases hlow
  have hvalue : Number.radixValue 16 [c, c'] = some (16 * high + low) := by
    show Number.radixValue 16 ([c] ++ [c']) = _
    rw [Number.radix_value_concat (List.cons_ne_nil _ _), hlow]
    show ((hexDigitValue c).bind fun value => _) = _
    rw [hhigh]
    rfl
  have hdigits : ([c, c'].takeWhile fun c => (Number.radixValue 16 [c]).isSome) = [c, c'] := by
    refine List.takeWhile_eq_self_iff.mpr fun digit hdigit => ?_
    show (hexDigitValue digit).isSome = true
    rw [List.mem_cons, List.mem_singleton] at hdigit
    obtain rfl | rfl := hdigit
    · rw [hhigh]; rfl
    · rw [hlow]; rfl
  simp only [List.mem_cons, List.not_mem_nil, or_false, not_or] at hsign hletter
  obtain ⟨-, hminus, hplus, -, -⟩ := hsign
  obtain ⟨-, -, -, hx, hX⟩ := hletter
  have hblank' : [c, c'].dropWhile isWhitespace = [c, c'] :=
    List.dropWhile_cons_of_neg (by rw [hblank]; exact Bool.false_ne_true)
  unfold parseHex
  rw [hblank']
  simp [hminus, hplus, hx, hX, hdigits, hvalue]

theorem char_pairs_cons {c c' : Char} {high low : ℕ} (rest : List Char)
    (hhigh : hexDigitValue c = some high) (hlow : hexDigitValue c' = some low) :
    charPairs (c :: c' :: rest) = [c, c'] :: charPairs rest := by
  obtain ⟨-, -, hc⟩ := hex_digit_value_cases hhigh
  obtain ⟨-, -, hc'⟩ := hex_digit_value_cases hlow
  rw [charPairs]
  simp only [hc, hc', decide_false, Bool.or_self, Bool.false_eq_true, if_false]

theorem exists_value_of_mem {digits : List Char} {values : List ℕ} {digit : Char}
    (h : List.Forall₂ (fun digit value => hexDigitValue digit = some value) digits values)
    (hdigit : digit ∈ digits) : ∃ value, hexDigitValue digit = some value := by
  induction h with
  | nil => cases hdigit
  | cons hhead _ ih =>
      obtain rfl | hrest := List.mem_cons.mp hdigit
      · exact ⟨_, hhead⟩
      · exact ih hrest

/-- The digits of a color are what is left of its text without the sign. -/
theorem erase_sign_of_hex_color {text : String} {digits : List Char} {values : List ℕ}
    (h : IsHexColor text digits values) :
    (if text.toList.contains '#' then text.toList.erase '#' else text.toList) = digits := by
  have hsign : '#' ∉ digits := by
    intro hmem
    obtain ⟨value, hvalue⟩ := exists_value_of_mem h.values hmem
    exact (hex_digit_value_cases hvalue).2.1 (List.mem_cons_self ..)
  obtain htext | htext := h.sign
  · rw [htext, if_neg (by rwa [List.contains_iff_mem])]
  · rw [htext, if_pos (by simp), List.erase_cons_head]

/-- The three channels of a color are bytes, and a Shelly LED is sent exactly these. -/
theorem to_rgb_array_of_hex_color {text : String} {digits : List Char} {values : List ℕ}
    (h : IsHexColor text digits values) :
    (colorChannels values).length = 3 ∧ (∀ channel ∈ colorChannels values, channel < 256) ∧
      toRgbArray (.string text) =
        .array ((colorChannels values).map fun channel => .number (.finite (channel : ℚ))) := by
  have hlength := h.length
  have hrgb : toRgbArray (.string text) =
      (let normalized :=
        if digits.length = 3 || digits.length = 4 then (digits.take 3).map fun c => [c, c]
        else charPairs digits
      if normalized.length < 3 then .string text
      else .array ((normalized.take 3).map fun channel => .number (parseHex channel))) := by
    rw [← erase_sign_of_hex_color h]
    rfl
  have hdouble {c : Char} {value : ℕ} (hc : hexDigitValue c = some value) :
      parseHex [c, c] = .finite ((17 * value : ℕ) : ℚ) := by
    rw [parse_hex_pair hc hc]
    congr 2
    omega
  have hsmall {c : Char} {value : ℕ} (hc : hexDigitValue c = some value) : value < 16 :=
    (hex_digit_value_range hc).1
  -- three, four, six or eight digits, and no other number of them
  obtain _ | ⟨h₀, _ | ⟨h₁, _ | ⟨h₂, _ | ⟨h₃, _ | ⟨h₄, _ | ⟨h₅, _ | ⟨h₆, _ | ⟨h₇, hrest⟩⟩⟩⟩⟩⟩⟩⟩ :=
    h.values
  · simp at hlength
  · simp at hlength
  · simp at hlength
  · refine ⟨rfl, ?_, ?_⟩
    · have hr := hsmall h₀
      have hg := hsmall h₁
      have hb := hsmall h₂
      simp [colorChannels]
      omega
    · rw [hrgb]
      simp [colorChannels, hdouble h₀, hdouble h₁, hdouble h₂]
  · refine ⟨rfl, ?_, ?_⟩
    · have hr := hsmall h₀
      have hg := hsmall h₁
      have hb := hsmall h₂
      simp [colorChannels]
      omega
    · rw [hrgb]
      simp [colorChannels, hdouble h₀, hdouble h₁, hdouble h₂]
  · simp at hlength
  · refine ⟨rfl, ?_, ?_⟩
    · have hr := And.intro (hsmall h₀) (hsmall h₁)
      have hg := And.intro (hsmall h₂) (hsmall h₃)
      have hb := And.intro (hsmall h₄) (hsmall h₅)
      simp [colorChannels]
      omega
    · rw [hrgb]
      simp [colorChannels, char_pairs_cons _ h₀ h₁, char_pairs_cons _ h₂ h₃,
        char_pairs_cons _ h₄ h₅, parse_hex_pair h₀ h₁, parse_hex_pair h₂ h₃,
        parse_hex_pair h₄ h₅]
  · simp at hlength
  · refine ⟨rfl, ?_, ?_⟩
    · have hr := And.intro (hsmall h₀) (hsmall h₁)
      have hg := And.intro (hsmall h₂) (hsmall h₃)
      have hb := And.intro (hsmall h₄) (hsmall h₅)
      simp [colorChannels]
      omega
    · rw [hrgb]
      simp [colorChannels, char_pairs_cons _ h₀ h₁, char_pairs_cons _ h₂ h₃,
        char_pairs_cons _ h₄ h₅, parse_hex_pair h₀ h₁, parse_hex_pair h₂ h₃,
        parse_hex_pair h₄ h₅]

/-- Only the color of the controls becomes the `rgb` parameter. -/
theorem lookup_rgb_param {controls : DevicePayload} {value : Value}
    (hcolor : controls.lookup "color" = some value) (hset : value.isNullish = false) :
    (getRpcParams controls).lookup "rgb" = some (toRgbArray value) := by
  have hname : "color" ∈ getControlNames controls := by
    refine List.mem_map.mpr ⟨⟨"color", value⟩, List.mem_filter.mpr ?_, rfl⟩
    refine ⟨AList.mem_lookup_iff.mp hcolor, ?_⟩
    rw [hset]
    show (decide ("color" ≠ devicePayloadOverrideKey) && !false) = true
    decide
  have hget : controls.get "color" = value := by
    rw [Object.get, hcolor]
    rfl
  have hmem : ("rgb", toRgbArray value) ∈ getRpcParams controls := by
    refine List.mem_filterMap.mpr ⟨"color", hname, ?_⟩
    rw [hget]
    rfl
  have honly : ∀ entry ∈ shellyControlParams, entry.2.namePath = "rgb" → entry.1 = "color" := by
    decide
  have hunique : ∀ other, ("rgb", other) ∈ getRpcParams controls → other = toRgbArray value := by
    intro other hother
    obtain ⟨name, -, hparam⟩ := List.mem_filterMap.mp hother
    obtain ⟨param, hlookup, hentry⟩ := Option.map_eq_some_iff.mp hparam
    obtain ⟨before, after, hsplit, -⟩ := List.lookup_eq_some_iff.mp hlookup
    have hpath : param.namePath = "rgb" := congrArg Prod.fst hentry
    obtain rfl : name = "color" := honly (name, param) (by simp [hsplit]) hpath
    cases hlookup
    rw [hget] at hentry
    exact (Prod.mk.inj hentry).2.symm
  cases hlookup : (getRpcParams controls).lookup "rgb" with
  | none =>
      have hne := List.lookup_eq_none_iff.mp hlookup _ hmem
      simp at hne
  | some other =>
      obtain ⟨before, after, hsplit, -⟩ := List.lookup_eq_some_iff.mp hlookup
      rw [hunique other (by simp [hsplit])]

/-- Whatever other controls are set, a Shelly LED that is sent a hex color is sent its three bytes
as the `rgb` parameter, with each short digit doubled and without the alpha. -/
theorem shelly_color_sent {device : Device} {controls : DevicePayload}
    {message : TransportMessage} {text : String} {digits : List Char} {values : List ℕ}
    (hmessage : shellyControlsPayload device controls = .ok message)
    (hcolor : controls.lookup "color" = some (.string text))
    (htext : IsHexColor text digits values) :
    ∃ params, message.payload.lookup "params" = some (.object params) ∧
      params.lookup "rgb" =
        some (.array ((colorChannels values).map fun channel => .number (.finite (channel : ℚ)))) ∧
      (colorChannels values).length = 3 ∧ ∀ channel ∈ colorChannels values, channel < 256 := by
  obtain ⟨hlength, hbytes, hsent⟩ := to_rgb_array_of_hex_color htext
  simp only [shellyControlsPayload, bind_ok_iff, pure, Except.pure] at hmessage
  obtain ⟨ip, -, component, -, hmessage⟩ := hmessage
  cases hmessage
  refine ⟨_, Object.lookup_of_assignments_concat [_, _] _ _, ?_, hlength, hbytes⟩
  rw [List.lookup_cons, show ("rgb" == "id") = false from by decide, ← hsent]
  exact lookup_rgb_param hcolor rfl

/-- A Shelly LED. -/
def shellyLamp : Device :=
  { externalId := "bulb"
    name := .value "Bulb"
    type := .value .led
    brand := .value .shelly
    transportProtocol := .value .http
    ip := .value "192.168.0.8" }

/-- A short color with an alpha is sent as the three bytes `00`, `AA` and `88`. -/
theorem shelly_color_sent_short :
    ∃ message params,
      shellyControlsPayload shellyLamp (.ofAssignments [⟨"color", .string "#0a8f"⟩]) =
        .ok message ∧
      message.payload.lookup "params" = some (.object params) ∧
      params.lookup "rgb" = some (.array
        [.number (.finite 0), .number (.finite 170), .number (.finite 136)]) := by
  obtain ⟨params, hparams, hrgb, -⟩ := @shelly_color_sent shellyLamp
    (.ofAssignments [⟨"color", .string "#0a8f"⟩]) _ "#0a8f" ['0', 'a', '8', 'f'] [0, 10, 8, 15]
    rfl rfl ⟨.inr rfl, by decide, .cons rfl (.cons rfl (.cons rfl (.cons rfl .nil)))⟩
  exact ⟨_, params, rfl, hparams, by simpa [colorChannels] using hrgb⟩

end MyHomeHub.ControlService
