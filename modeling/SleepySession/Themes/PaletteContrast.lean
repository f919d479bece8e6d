import SleepySession.Themes.PaletteChoice

/-!
# When palettes are usable

On a background below the threshold, white text has a contrast of ten to one.
Above it the text is black, and the threshold lies far below the luminance from
which black has enough contrast: there are backgrounds for which no palette is
found.
-/

namespace SleepySession
namespace Themes

open Checks

section Statements

noncomputable def Pixel.luminance (p : Pixel) : ℝ :=
  0.2126 * gamma ((p.1.toNat : ℝ) / 255) + 0.7152 * gamma ((p.2.1.toNat : ℝ) / 255) +
    0.0722 * gamma ((p.2.2.toNat : ℝ) / 255)

noncomputable def contrast (p q : Pixel) : ℝ :=
  (max p.luminance q.luminance + 0.05) / (min p.luminance q.luminance + 0.05)

/-- The contrast rules of themes. -/
def MeetsRules (colors : SemanticColors) : Prop :=
  ∀ foreground ∈ [colors.accent, colors.control], ∀ surface ∈ [colors.background, colors.surface],
    ∃ ratio, localContrastRatio foreground surface = .ok ratio ∧ 3 ≤ ratio

/-- The background is a color of the image, everything else one or black or white. -/
structure FromImage (pixels : List Pixel) (colors : SemanticColors) : Prop where
  background : ∃ p ∈ pixels, colors.background = hex p ∧ colors.surface = hex p
  text : ∃ p ∈ [black, white], colors.textPrimary = hex p ∧ colors.textSecondary = hex p ∧
    colors.control = hex p
  accent : ∃ p ∈ black :: white :: pixels, colors.accent = hex p

/-- The darkest color is below the threshold, or black on it has enough contrast for the
controls and for the validator. -/
def Usable (sdk : Validator) (pixels : List Pixel) : Prop :=
  ∃ background accent, Darkest pixels background ∧ MostSaturated pixels accent ∧
    (luminanceKey background ≤ lightThreshold ∨
      (3 ≤ contrast black background ∧
        ((3 ≤ contrast accent background ∧
            sdk (probe background (paletteColors background accent)) = .ok ()) ∨
          sdk (probe background (paletteColors background black)) = .ok ())))

end Statements

section Luminance

theorem fromStrRadix_hexByte (n : UInt8) : fromStrRadix (hexByte n) = some n.toNat := by
  have hall : ∀ n < 256, fromStrRadix [hexDigit (n / 16), hexDigit (n % 16)] = some n := by
    decide +kernel
  exact hall n.toNat n.toNat_lt

theorem component_hexByte (n : UInt8) :
    component (hexByte n) = .ok (gamma ((n.toNat : ℝ) / 255)) := by
  rw [component, fromStrRadix_hexByte]

theorem luminance_hex (p : Pixel) : luminance (hex p) = .ok p.luminance := by
  have hred : ((hex p).drop 1).take 2 = hexByte p.1 := rfl
  have hgreen : ((hex p).drop 3).take 2 = hexByte p.2.1 := rfl
  have hblue : ((hex p).drop 5).take 2 = hexByte p.2.2 := rfl
  rw [luminance, hred, hgreen, hblue, component_hexByte, component_hexByte, component_hexByte,
    ensure, if_pos ⟨rfl, rfl⟩]
  rfl

theorem localContrastRatio_hex (p q : Pixel) :
    localContrastRatio (hex p) (hex q) = .ok (contrast p q) := by
  rw [localContrastRatio, luminance_hex, luminance_hex]
  rfl

theorem gamma_nonneg {x : ℝ} (hx : 0 ≤ x) : 0 ≤ gamma x := by
  unfold gamma
  split_ifs
  · positivity
  · positivity

/-- Linear values are not above the raw ones. -/
theorem gamma_le {x : ℝ} (hx : 0 ≤ x) (hx' : x ≤ 1) : gamma x ≤ x := by
  unfold gamma
  split_ifs with h
  · rw [div_le_iff₀ (by norm_num)]
    nlinarith
  · have hu : 0 < (x + 0.055) / 1.055 := by positivity
    have hu' : (x + 0.055) / 1.055 ≤ 1 := by
      rw [div_le_one (by norm_num)]
      linarith
    have hsquare : ((x + 0.055) / 1.055) ^ (2.4 : ℝ) ≤ ((x + 0.055) / 1.055) ^ (2 : ℝ) :=
      Real.rpow_le_rpow_of_exponent_ge hu hu' (by norm_num)
    refine hsquare.trans ?_
    rw [show (2 : ℝ) = ((2 : ℕ) : ℝ) by norm_num, Real.rpow_natCast]
    -- the parabola meets the diagonal at 0.055² and at 1
    rw [div_pow, div_le_iff₀ (by norm_num)]
    nlinarith

theorem byte_fraction (n : UInt8) : 0 ≤ (n.toNat : ℝ) / 255 ∧ (n.toNat : ℝ) / 255 ≤ 1 := by
  have hn : (n.toNat : ℝ) ≤ 255 := by exact_mod_cast Nat.le_of_lt_succ n.toNat_lt
  exact ⟨by positivity, (div_le_one (by norm_num)).mpr hn⟩

theorem luminance_nonneg (p : Pixel) : 0 ≤ p.luminance := by
  have hr := gamma_nonneg (byte_fraction p.1).1
  have hg := gamma_nonneg (byte_fraction p.2.1).1
  have hb := gamma_nonneg (byte_fraction p.2.2).1
  unfold Pixel.luminance
  positivity

/-- The key bounds the luminance. -/
theorem luminance_le_key (p : Pixel) : p.luminance ≤ (luminanceKey p : ℝ) / 2550000 := by
  have hr := gamma_le (byte_fraction p.1).1 (byte_fraction p.1).2
  have hg := gamma_le (byte_fraction p.2.1).1 (byte_fraction p.2.1).2
  have hb := gamma_le (byte_fraction p.2.2).1 (byte_fraction p.2.2).2
  unfold Pixel.luminance luminanceKey
  push_cast
  linarith

theorem luminance_black : black.luminance = 0 := by
  have hzero : gamma ((((0 : UInt8).toNat : ℕ) : ℝ) / 255) = 0 := by
    norm_num [gamma]
  simp only [Pixel.luminance, black, hzero]
  norm_num

theorem luminance_white : white.luminance = 1 := by
  have hone : gamma ((((255 : UInt8).toNat : ℕ) : ℝ) / 255) = 1 := by
    rw [show (255 : UInt8).toNat = 255 from rfl]
    norm_num [gamma]
  simp only [Pixel.luminance, white, hone]
  norm_num

/-- Black stands out from what is bright. -/
theorem contrast_black (p : Pixel) : contrast black p = (p.luminance + 0.05) / 0.05 := by
  rw [contrast, luminance_black, max_eq_right (luminance_nonneg p),
    min_eq_left (luminance_nonneg p), zero_add]

/-- White stands out from what is below the threshold. -/
theorem contrast_white {p : Pixel} (h : luminanceKey p ≤ lightThreshold) :
    10 ≤ contrast white p := by
  have hkey : (luminanceKey p : ℝ) ≤ 140000 := by exact_mod_cast h
  have hle := luminance_le_key p
  have hnonneg := luminance_nonneg p
  have hone : p.luminance ≤ 1 := by linarith
  rw [contrast, luminance_white, max_eq_left hone, min_eq_right hone,
    le_div_iff₀ (by linarith)]
  linarith

end Luminance

section Validation

variable {sdk : Validator} {background accent : Pixel}

theorem checkContrast_eq_ok_iff {name surfaceName : Text} {p q : Pixel} :
    checkContrast name (hex p) surfaceName (hex q) = .ok () ↔ 3 ≤ contrast p q := by
  rw [checkContrast, localContrastRatio_hex]
  exact ensure_eq_ok_iff

theorem validateDocument_probe :
    validateDocument sdk (probe background (paletteColors background accent)) = .ok () ↔
      sdk (probe background (paletteColors background accent)) = .ok () ∧
        3 ≤ contrast accent background ∧ 3 ≤ contrast (textColor background) background := by
  have hcheck := fun name surfaceName p q => @checkContrast_eq_ok_iff name surfaceName p q
  rw [validateDocument]
  simp only [probe, paletteColors, check_bind_eq_ok_iff, hcheck]
  tauto

theorem meetsRules_paletteColors (haccent : 3 ≤ contrast accent background)
    (htext : 3 ≤ contrast (textColor background) background) :
    MeetsRules (paletteColors background accent) := by
  have hforeground : ∀ p, 3 ≤ contrast p background →
      ∀ surface ∈ [hex background, hex background],
        ∃ ratio, localContrastRatio (hex p) surface = .ok ratio ∧ 3 ≤ ratio := by
    intro p hp surface hsurface
    obtain rfl : surface = hex background := by simpa using hsurface
    exact ⟨_, localContrastRatio_hex p background, hp⟩
  intro foreground hmem
  rcases List.mem_cons.mp hmem with rfl | hmem
  · exact hforeground accent haccent
  · obtain rfl := List.mem_singleton.mp hmem
    exact hforeground _ htext

theorem fromImage_paletteColors {pixels : List Pixel} (hbackground : background ∈ pixels)
    (haccent : accent ∈ black :: white :: pixels) :
    FromImage pixels (paletteColors background accent) where
  background := ⟨background, hbackground, rfl, rfl⟩
  text := ⟨textColor background, by unfold textColor; split <;> simp, rfl, rfl, rfl⟩
  accent := ⟨accent, haccent, rfl⟩

/-- What is returned has been validated, with the color of the image or of the text as accent. -/
theorem deriveWallpaperPalette_ok_iff {bytes : List UInt8} (hne : bytes ≠ [])
    (hlength : bytes.length % 3 = 0) (hcount : bytes.length / 3 ≤ maxPixels)
    (hbackground : Darkest (chunks bytes) background)
    (haccent : MostSaturated (chunks bytes) accent) {colors : SemanticColors} :
    deriveWallpaperPalette sdk bytes = .ok colors ↔
      (validateDocument sdk (probe background (paletteColors background accent)) = .ok () ∧
          colors = paletteColors background accent) ∨
        (validateDocument sdk (probe background (paletteColors background accent)) ≠ .ok () ∧
          validateDocument sdk (probe background
            (paletteColors background (textColor background))) = .ok () ∧
          colors = paletteColors background (textColor background)) := by
  have hpixels : chunks bytes ≠ [] := List.ne_nil_of_mem hbackground.mem
  obtain ⟨background', hmin, hbackground'⟩ := background_spec hpixels
  obtain rfl := hbackground'.unique hbackground
  obtain ⟨accent', hmax, haccent'⟩ := accent_spec hpixels
  obtain rfl := haccent'.unique haccent
  rw [deriveWallpaperPalette, if_neg (by simp [hne, hlength]), if_neg (not_lt.mpr hcount)]
  simp only [hmin, hmax, Option.getD_some]
  cases hfirst : validateDocument sdk (probe background' (paletteColors background' accent')) with
  | ok _ =>
      simp only [hfirst]
      constructor
      · exact fun h => Or.inl ⟨trivial, (Except.ok.inj h).symm⟩
      · rintro (⟨-, rfl⟩ | ⟨hnot, -⟩)
        · rfl
        · exact absurd rfl hnot
  | error e =>
      have hfallback : ({ paletteColors background' accent' with
          accent := hex (textColor background') } : SemanticColors) =
          paletteColors background' (textColor background') := rfl
      simp only [hfallback]
      cases hsecond : validateDocument sdk (probe background'
          (paletteColors background' (textColor background'))) with
      | ok _ =>
          constructor
          · exact fun h => Or.inr ⟨nofun, rfl, (Except.ok.inj h).symm⟩
          · rintro (⟨hnot, -⟩ | ⟨-, -, rfl⟩)
            · cases hnot
            · rfl
      | error e' =>
          constructor
          · exact fun h => nomatch h
          · rintro (⟨hnot, -⟩ | ⟨-, hnot, -⟩)
            · cases hnot
            · cases hnot

end Validation

section Usability

variable {sdk : Validator} {background accent : Pixel}

theorem textColor_of_dark (h : luminanceKey background ≤ lightThreshold) :
    textColor background = white := by
  simp [textColor, isLight, Nat.not_lt.mpr h]

theorem textColor_of_light (h : ¬ luminanceKey background ≤ lightThreshold) :
    textColor background = black := by
  simp [textColor, isLight, Nat.not_le.mp h]

/-- A palette with text and accent of the text color, on a dark background. -/
theorem validate_dark {sufficient : ℝ} (hsufficient : sufficient ≤ 10)
    (haccepts : ∀ background accent, sufficient ≤ contrast (textColor background) background →
      sdk (probe background (paletteColors background accent)) = .ok ())
    (h : luminanceKey background ≤ lightThreshold) :
    validateDocument sdk (probe background
      (paletteColors background (textColor background))) = .ok () := by
  have htext : 10 ≤ contrast (textColor background) background := by
    rw [textColor_of_dark h]
    exact contrast_white h
  exact validateDocument_probe.mpr ⟨haccepts _ _ (hsufficient.trans htext), by linarith,
    by linarith⟩

/-- The validator of the SDK accepts the probe where text has a sufficient contrast, which is
at most ten to one.  A usable palette is found just where the pixels allow one. -/
theorem palette_usable_iff (sdk : Validator) (sufficient : ℝ) (hsufficient : sufficient ≤ 10)
    (haccepts : ∀ background accent, sufficient ≤ contrast (textColor background) background →
      sdk (probe background (paletteColors background accent)) = .ok ())
    (bytes : List UInt8) (hne : bytes ≠ []) (hlength : bytes.length % 3 = 0)
    (hcount : bytes.length / 3 ≤ maxPixels) :
    (∃ colors, deriveWallpaperPalette sdk bytes = .ok colors ∧ MeetsRules colors ∧
        FromImage (chunks bytes) colors) ↔
      Usable sdk (chunks bytes) := by
  have hpixels : chunks bytes ≠ [] := by
    match bytes, hne, hlength with
    | r :: g :: b :: rest, _, _ => exact List.cons_ne_nil _ _
  obtain ⟨background, -, hbackground⟩ := background_spec hpixels
  obtain ⟨accent, -, haccent⟩ := accent_spec hpixels
  have hderive := fun colors => @deriveWallpaperPalette_ok_iff sdk background accent bytes hne
    hlength hcount hbackground haccent colors
  have htextColor : textColor background ∈ black :: white :: chunks bytes := by
    unfold textColor
    split <;> simp
  have husable : Usable sdk (chunks bytes) ↔
      validateDocument sdk (probe background (paletteColors background accent)) = .ok () ∨
        validateDocument sdk (probe background
          (paletteColors background (textColor background))) = .ok () := by
    by_cases hdark : luminanceKey background ≤ lightThreshold
    · refine iff_of_true ⟨background, accent, hbackground, haccent, Or.inl hdark⟩ (Or.inr ?_)
      exact validate_dark hsufficient haccepts hdark
    · rw [validateDocument_probe, validateDocument_probe, textColor_of_light hdark]
      constructor
      · rintro ⟨b, a, hb, ha, hcondition⟩
        obtain rfl := hb.unique hbackground
        obtain rfl := ha.unique haccent
        obtain ⟨hcontrast, ⟨haccentContrast, hsdk⟩ | hsdk⟩ := hcondition.resolve_left hdark
        · exact Or.inl ⟨hsdk, haccentContrast, hcontrast⟩
        · exact Or.inr ⟨hsdk, hcontrast, hcontrast⟩
      · rintro (⟨hsdk, haccentContrast, hcontrast⟩ | ⟨hsdk, hcontrast, -⟩)
        · exact ⟨background, accent, hbackground, haccent,
            Or.inr ⟨hcontrast, Or.inl ⟨haccentContrast, hsdk⟩⟩⟩
        · exact ⟨background, accent, hbackground, haccent, Or.inr ⟨hcontrast, Or.inr hsdk⟩⟩
  rw [husable]
  constructor
  · rintro ⟨colors, hrun, -⟩
    rcases (hderive colors).mp hrun with ⟨hvalid, -⟩ | ⟨-, hvalid, -⟩
    · exact Or.inl hvalid
    · exact Or.inr hvalid
  · intro hvalid
    by_cases hfirst :
        validateDocument sdk (probe background (paletteColors background accent)) = .ok ()
    · obtain ⟨-, haccentContrast, htext⟩ := validateDocument_probe.mp hfirst
      exact ⟨_, (hderive _).mpr (Or.inl ⟨hfirst, rfl⟩),
        meetsRules_paletteColors haccentContrast htext,
        fromImage_paletteColors hbackground.mem (by simp [haccent.mem])⟩
    · have hsecond := hvalid.resolve_left hfirst
      obtain ⟨-, haccentContrast, htext⟩ := validateDocument_probe.mp hsecond
      exact ⟨_, (hderive _).mpr (Or.inr ⟨hfirst, hsecond, rfl⟩),
        meetsRules_paletteColors haccentContrast htext,
        fromImage_paletteColors hbackground.mem htextColor⟩

end Usability

section Samples

/-- A validator that asks of texts what it is said to ask. -/
noncomputable def contrastValidator : Validator :=
  fun document => checkContrast "text".toList document.rest.colors.textPrimary
    "background".toList document.rest.colors.background

/-- A night sky, a red lamp, a white wall and the sky again. -/
def nightImage : List UInt8 :=
  [4, 6, 18, 220, 40, 30, 250, 250, 245, 4, 6, 18]

theorem palette_usable_night :
    (∃ colors, deriveWallpaperPalette contrastValidator nightImage = .ok colors ∧
        MeetsRules colors ∧ FromImage (chunks nightImage) colors) ↔
      Usable contrastValidator (chunks nightImage) :=
  palette_usable_iff contrastValidator 4.5 (by norm_num)
    (fun background accent h => checkContrast_eq_ok_iff.mpr (le_trans (by norm_num) h))
    nightImage (by decide) (by decide) (by decide)

/-- A dark grey above the threshold: the text is black, and no accent helps. -/
theorem dark_grey_refused :
    ¬ ∀ (sdk : Validator) (sufficient : ℝ), sufficient ≤ 10 →
      (∀ background accent, sufficient ≤ contrast (textColor background) background →
        sdk (probe background (paletteColors background accent)) = .ok ()) →
      ∀ bytes : List UInt8, bytes ≠ [] → bytes.length % 3 = 0 → bytes.length / 3 ≤ maxPixels →
        ∃ colors, deriveWallpaperPalette sdk bytes = .ok colors := by
  intro h
  obtain ⟨colors, hrun⟩ := h (fun _ => .ok ()) 4.5 (by norm_num) (fun _ _ _ => rfl) [15, 15, 15]
    (by decide) (by decide) (by decide)
  have hgrey : chunks [15, 15, 15] = [(15, 15, 15)] := rfl
  have hdarkest : Darkest (chunks [15, 15, 15]) (15, 15, 15) := by
    rw [hgrey]
    exact ⟨List.mem_singleton_self _, by simp⟩
  have hsaturated : MostSaturated (chunks [15, 15, 15]) (15, 15, 15) := by
    rw [hgrey]
    exact ⟨List.mem_singleton_self _, by simp [accentBelow]⟩
  have hlow : contrast (textColor (15, 15, 15)) (15, 15, 15) < 3 := by
    have hle := luminance_le_key (15, 15, 15)
    rw [show luminanceKey (15, 15, 15) = 150000 from by decide] at hle
    rw [textColor_of_light (by decide), contrast_black, div_lt_iff₀ (by norm_num)]
    norm_num at hle ⊢
    linarith
  rcases (deriveWallpaperPalette_ok_iff (by decide) (by decide) (by decide) hdarkest
    hsaturated).mp hrun with ⟨hvalid, -⟩ | ⟨-, hvalid, -⟩
  · exact absurd (validateDocument_probe.mp hvalid).2.2 (not_le.mpr hlow)
  · exact absurd (validateDocument_probe.mp hvalid).2.2 (not_le.mpr hlow)

end Samples

end Themes
end SleepySession
