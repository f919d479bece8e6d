import Mathlib.Analysis.SpecialFunctions.Pow.Real
import SleepySession.Desktop.CommandText
import SleepySession.Lib.Checks
import SleepySession.Themes.Manager

/-!
# Palettes from wallpapers

`derive_wallpaper_palette` and the contrast rules of `validate_document`, with
contrast ratios over the reals.  The validator of the SDK is a parameter.
-/

namespace SleepySession
namespace Themes

open Checks

section Colors

/-- Red, green and blue. -/
abbrev Pixel :=
  UInt8 × UInt8 × UInt8

/-- The place of a color in the order of triples. -/
def Pixel.code (p : Pixel) : Nat :=
  p.1.toNat * 0x10000 + p.2.1.toNat * 0x100 + p.2.2.toNat

def black : Pixel :=
  (0, 0, 0)

def white : Pixel :=
  (255, 255, 255)

/-- One digit of `{:02X}`. -/
def hexDigit (n : Nat) : Char :=
  if n < 10 then Char.ofNat (0x30 + n) else Char.ofNat (0x37 + n)

def hexByte (n : UInt8) : Text :=
  [hexDigit (n.toNat / 16), hexDigit (n.toNat % 16)]

def hex (p : Pixel) : Text :=
  '#' :: (hexByte p.1 ++ hexByte p.2.1 ++ hexByte p.2.2)

def hexValue (c : Char) : Option Nat :=
  if 0x30 ≤ c.toNat ∧ c.toNat ≤ 0x39 then some (c.toNat - 0x30)
  else if 0x41 ≤ c.toNat ∧ c.toNat ≤ 0x46 then some (c.toNat - 0x37)
  else if 0x61 ≤ c.toNat ∧ c.toNat ≤ 0x66 then some (c.toNat - 0x57)
  else none

/-- `u8::from_str_radix` of two characters to the base 16. -/
def fromStrRadix : Text → Option Nat
  | ['+', low] => hexValue low
  | [high, low] => do
      let high ← hexValue high
      let low ← hexValue low
      pure (16 * high + low)
  | _ => none

def luminanceKey (p : Pixel) : Nat :=
  2126 * p.1.toNat + 7152 * p.2.1.toNat + 722 * p.2.2.toNat

def saturation (p : Pixel) : Nat :=
  max (max p.1.toNat p.2.1.toNat) p.2.2.toNat - min (min p.1.toNat p.2.1.toNat) p.2.2.toNat

end Colors

section Contrast

instance atLeastTwo_three : Nat.AtLeastTwo 3 :=
  inferInstance

instance atLeastTwo_byteMax : Nat.AtLeastTwo 255 :=
  inferInstance

/-- The linear value of a component. -/
noncomputable def gamma (value : ℝ) : ℝ :=
  if value ≤ 0.04045 then value / 12.92 else ((value + 0.055) / 1.055) ^ (2.4 : ℝ)

noncomputable def component (text : Text) : Except String ℝ :=
  match fromStrRadix text with
  | none => .error "theme color must be #RRGGBB"
  | some value => .ok (gamma ((value : ℝ) / 255))

/-- The luminance of a color of ASCII characters. -/
noncomputable def luminance (color : Text) : Except String ℝ := do
  ensure (color.length = 7 ∧ color.head? = some '#') "theme color must be #RRGGBB"
  let red ← component ((color.drop 1).take 2)
  let green ← component ((color.drop 3).take 2)
  let blue ← component ((color.drop 5).take 2)
  pure (0.2126 * red + 0.7152 * green + 0.0722 * blue)

noncomputable def localContrastRatio (first second : Text) : Except String ℝ := do
  let first ← luminance first
  let second ← luminance second
  pure ((max first second + 0.05) / (min first second + 0.05))

end Contrast

section Documents

structure SemanticColors where
  background : Text
  surface : Text
  textPrimary : Text
  textSecondary : Text
  accent : Text
  control : Text
deriving DecidableEq

inductive ThemeAppearance where
  | light
  | dark
deriving DecidableEq

inductive ThemeEffects where
  | full
  | reduced
deriving DecidableEq

/-- What a theme document says of its looks. -/
structure Looks where
  appearance : ThemeAppearance
  effects : ThemeEffects
  colors : SemanticColors
deriving DecidableEq

/-- `validate_theme_document`, on the text of a document. -/
abbrev Validator :=
  ThemeDocument Looks → Except String Unit

open Classical in
noncomputable def checkContrast (name foreground surfaceName surface : Text) :
    Except String Unit := do
  let ratio ← localContrastRatio foreground surface
  ensure (3 ≤ ratio) (String.ofList ("theme ".toList ++ name ++ '/' :: surfaceName ++
    " contrast must be at least 3:1".toList))

noncomputable def validateDocument (sdk : Validator) (document : ThemeDocument Looks) :
    Except String Unit := do
  let colors := document.rest.colors
  sdk document
  checkContrast "accent".toList colors.accent "background".toList colors.background
  checkContrast "accent".toList colors.accent "surface".toList colors.surface
  checkContrast "control".toList colors.control "background".toList colors.background
  checkContrast "control".toList colors.control "surface".toList colors.surface

end Documents

section Derivation

/-- `chunks_exact(3)`. -/
def chunks : List UInt8 → List Pixel
  | r :: g :: b :: rest => (r, g, b) :: chunks rest
  | _ => []

/-- One more pixel of a color, in a map that is sorted by color. -/
def countPixel (p : Pixel) : List (Pixel × Nat) → List (Pixel × Nat)
  | [] => [(p, 1)]
  | (q, n) :: rest =>
      if p = q then (q, n + 1) :: rest
      else if p.code < q.code then (p, 1) :: (q, n) :: rest
      else (q, n) :: countPixel p rest

def frequency (pixels : List Pixel) : List (Pixel × Nat) :=
  pixels.foldl (fun counts p => countPixel p counts) []

/-- `min_by_key`: the first of the least. -/
def minByKey (key : Pixel → Nat) : List Pixel → Option Pixel
  | [] => none
  | p :: rest =>
      match minByKey key rest with
      | none => some p
      | some q => if key q < key p then some q else some p

/-- The key of the accent, its parts in the order of their weight. -/
def accentKey (entry : Pixel × Nat) : Nat × Nat × Nat :=
  (saturation entry.1, entry.2, entry.1.code)

def accentBelow (left right : Pixel × Nat) : Prop :=
  toLex ((accentKey left).1, toLex (accentKey left).2) <
    toLex ((accentKey right).1, toLex (accentKey right).2)

instance : DecidableRel accentBelow :=
  fun _ _ => inferInstanceAs (Decidable (_ < _))

/-- `max_by_key`: the last of the greatest. -/
def maxAccent : List (Pixel × Nat) → Option (Pixel × Nat)
  | [] => none
  | entry :: rest =>
      match maxAccent rest with
      | none => some entry
      | some other => if accentBelow other entry then some entry else some other

def maxPixels : Nat :=
  1000000

/-- The key from which on text is black. -/
def lightThreshold : Nat :=
  140000

def isLight (background : Pixel) : Bool :=
  lightThreshold < luminanceKey background

def textColor (background : Pixel) : Pixel :=
  if isLight background then black else white

def paletteColors (background accent : Pixel) : SemanticColors where
  background := hex background
  surface := hex background
  textPrimary := hex (textColor background)
  textSecondary := hex (textColor background)
  accent := hex accent
  control := hex (textColor background)

def probe (background : Pixel) (colors : SemanticColors) : ThemeDocument Looks where
  id := nilUuid
  name := "Wallpaper palette"
  origin := .user
  reducedMotion := false
  opaqueFallback := false
  rest := ⟨if isLight background then .light else .dark, .full, colors⟩

noncomputable def deriveWallpaperPalette (sdk : Validator) (bytes : List UInt8) :
    Except String SemanticColors :=
  if bytes = [] ∨ bytes.length % 3 ≠ 0 then
    .error "wallpaper pixels must be non-empty RGB triples"
  else if maxPixels < bytes.length / 3 then
    .error "wallpaper palette input exceeds one million pixels"
  else
    let counts := frequency (chunks bytes)
    match minByKey luminanceKey (counts.map Prod.fst) with
    | none => .error "non-empty pixels"
    | some background =>
        let text := textColor background
        let accent := ((maxAccent counts).map Prod.fst).getD text
        let derived := paletteColors background accent
        let colors :=
          match validateDocument sdk (probe background derived) with
          | .ok () => derived
          | .error _ => { derived with accent := hex text }
        match validateDocument sdk (probe background colors) with
        | .ok () => .ok colors
        | .error e => .error e

end Derivation

end Themes
end SleepySession
