import SleepySession.Desktop.Aggregate

/-!
# What an update says about the snapshot

A client that holds a snapshot puts the value of an update in its place.  Every
domain has exactly one place, and `assemble` fills it from the state of that
domain alone; so the update of a domain is all that a client needs after the
state of that domain has changed.
-/

namespace SleepySession
namespace Desktop

variable {V : DesktopDomainId → Type}

/-- What an update of a part of the system means for a client. -/
def DesktopSystemSnapshot.applyUpdate (snapshot : DesktopSystemSnapshot V) :
    DesktopSystemUpdate V → DesktopSystemSnapshot V
  | .network value => { snapshot with network := value }
  | .bluetooth value => { snapshot with bluetooth := value }
  | .audio value => { snapshot with audio := value }
  | .media value => { snapshot with media := value }
  | .battery value => { snapshot with battery := value }
  | .brightness value => { snapshot with brightness := value }
  | .nightLight value => { snapshot with nightLight := value }
  | .power value => { snapshot with power := value }
  | .osd value => { snapshot with osd := value }
  | .lock value => { snapshot with lock := value }

def DesktopUtilitySnapshot.applyUpdate (snapshot : DesktopUtilitySnapshot V) :
    DesktopUtilityUpdate V → DesktopUtilitySnapshot V
  | .trayItems value => { snapshot with trayItems := value }
  | .clipboardEntries value => { snapshot with clipboardEntries := value }
  | .recording value => { snapshot with recording := value }
  | .idleInhibited value => { snapshot with idleInhibited := value }
  | .gameMode value => { snapshot with gameMode := value }
  | .screenshot value => { snapshot with screenshot := value }
  | .colorPicker value => { snapshot with colorPicker := value }

/-- What an update means for a client. -/
def DesktopSnapshot.applyUpdate (snapshot : DesktopSnapshot V) :
    SdkDomainUpdate V → DesktopSnapshot V
  | .system update => { snapshot with system := snapshot.system.applyUpdate update }
  | .compositor value => { snapshot with compositor := ⟨value⟩ }
  | .notifications value => { snapshot with notifications := value }
  | .launcher value => { snapshot with launcher := value }
  | .calendar value => { snapshot with calendar := value }
  | .weather value => { snapshot with weather := value }
  | .appearance value => { snapshot with appearance := value }
  | .resources value => { snapshot with resources := value }
  | .utilities update => { snapshot with utilities := snapshot.utilities.applyUpdate update }

/-- What an event means for a client; before the first snapshot it has nothing. -/
def clientApply (snapshot : Option (DesktopSnapshot V)) : DesktopEvent V →
    Option (DesktopSnapshot V)
  | .fullSnapshot next => some next
  | .domainUpdate update => snapshot.map fun snapshot => snapshot.applyUpdate update
  | .commandResult _ => snapshot

/-- What a client shows after the given events. -/
def clientView (events : List (DesktopEnvelope V)) : Option (DesktopSnapshot V) :=
  events.foldl (fun snapshot event => clientApply snapshot event.payload) none

theorem clientView_append_singleton (events : List (DesktopEnvelope V))
    (event : DesktopEnvelope V) :
    clientView (events ++ [event]) = clientApply (clientView events) event.payload := by
  unfold clientView
  rw [List.foldl_append]
  rfl

section Places

variable {a b : DesktopSnapshot V}

/-- The places of the domains make up the snapshot. -/
theorem snapshot_ext (h : ∀ domain, domainUpdate domain a = domainUpdate domain b) : a = b := by
  obtain ⟨sa, ⟨ca⟩, na, la, aa, wa, pa, ra, ua⟩ := a
  obtain ⟨sb, ⟨cb⟩, nb, lb, ab, wb, pb, rb, ub⟩ := b
  have hsystem : sa = sb := by
    have hnetwork := h .network
    have hbluetooth := h .bluetooth
    have haudio := h .audio
    have hmedia := h .media
    have hbattery := h .battery
    have hbrightness := h .brightness
    have hnightLight := h .nightLight
    have hpower := h .power
    have hosd := h .osd
    have hlock := h .lock
    cases sa
    cases sb
    simp_all only [domainUpdate, SdkDomainUpdate.system.injEq, DesktopSystemUpdate.network.injEq,
      DesktopSystemUpdate.bluetooth.injEq, DesktopSystemUpdate.audio.injEq,
      DesktopSystemUpdate.media.injEq, DesktopSystemUpdate.battery.injEq,
      DesktopSystemUpdate.brightness.injEq, DesktopSystemUpdate.nightLight.injEq,
      DesktopSystemUpdate.power.injEq, DesktopSystemUpdate.osd.injEq,
      DesktopSystemUpdate.lock.injEq]
  have hutilities : ua = ub := by
    have htray := h .tray
    have hclipboard := h .clipboard
    have hrecording := h .recording
    have hidle := h .idleInhibit
    have hgame := h .gameMode
    have hscreenshot := h .screenshot
    have hpicker := h .colorPicker
    cases ua
    cases ub
    simp_all only [domainUpdate, SdkDomainUpdate.utilities.injEq,
      DesktopUtilityUpdate.trayItems.injEq, DesktopUtilityUpdate.clipboardEntries.injEq,
      DesktopUtilityUpdate.recording.injEq, DesktopUtilityUpdate.idleInhibited.injEq,
      DesktopUtilityUpdate.gameMode.injEq, DesktopUtilityUpdate.screenshot.injEq,
      DesktopUtilityUpdate.colorPicker.injEq]
  have hhyprland := SdkDomainUpdate.compositor.inj (h .hyprland)
  have hnotifications := SdkDomainUpdate.notifications.inj (h .notifications)
  have hlauncher := SdkDomainUpdate.launcher.inj (h .launcher)
  have hcalendar := SdkDomainUpdate.calendar.inj (h .calendar)
  have hweather := SdkDomainUpdate.weather.inj (h .weather)
  have happearance := SdkDomainUpdate.appearance.inj (h .appearance)
  have hresources := SdkDomainUpdate.resources.inj (h .resources)
  simp_all only

/-- An update changes the place of its domain. -/
theorem domainUpdate_applyUpdate_self (domain : DesktopDomainId) :
    domainUpdate domain (a.applyUpdate (domainUpdate domain b)) = domainUpdate domain b := by
  cases domain <;> rfl

/-- An update leaves every other place alone. -/
theorem domainUpdate_applyUpdate_of_ne {domain other : DesktopDomainId} (h : other ≠ domain) :
    domainUpdate other (a.applyUpdate (domainUpdate domain b)) = domainUpdate other a := by
  cases domain <;> cases other <;> first | rfl | exact absurd rfl h

end Places

section Assembly

variable {sdk : DesktopSdk V} {states states' : StateMap V} {a b : DesktopSnapshot V}

theorem except_bind_ok {ε α β : Type} {x : Except ε α} {f : α → Except ε β} {result : β}
    (h : (x >>= f) = .ok result) : ∃ value, x = .ok value ∧ f value = .ok result := by
  cases x with
  | error e => cases h
  | ok value => exact ⟨value, rfl, h⟩

/-- Where the parts of an assembled snapshot come from. -/
structure Assembled (sdk : DesktopSdk V) (states : StateMap V) (snapshot : DesktopSnapshot V) :
    Prop where
  system : systemSnapshot states = .ok snapshot.system
  hyprland : capability states .hyprland = .ok snapshot.compositor.hyprland
  notifications : notificationsSnapshot sdk states = .ok snapshot.notifications
  launcher : launcherSnapshot sdk states = .ok snapshot.launcher
  calendar : calendarSnapshot sdk states = .ok snapshot.calendar
  weather : weatherSnapshot sdk states = .ok snapshot.weather
  appearance : appearanceSnapshot sdk states = .ok snapshot.appearance
  resources : resourcesSnapshot sdk states = .ok snapshot.resources
  utilities : utilitiesSnapshot states = .ok snapshot.utilities

theorem assembled_of_ok (h : assembleFields sdk states = .ok a) : Assembled sdk states a := by
  obtain ⟨system, hsystem, h⟩ := except_bind_ok h
  obtain ⟨hyprland, hhyprland, h⟩ := except_bind_ok h
  obtain ⟨notifications, hnotifications, h⟩ := except_bind_ok h
  obtain ⟨launcher, hlauncher, h⟩ := except_bind_ok h
  obtain ⟨calendar, hcalendar, h⟩ := except_bind_ok h
  obtain ⟨weather, hweather, h⟩ := except_bind_ok h
  obtain ⟨appearance, happearance, h⟩ := except_bind_ok h
  obtain ⟨resources, hresources, h⟩ := except_bind_ok h
  obtain ⟨utilities, hutilities, h⟩ := except_bind_ok h
  cases h
  exact ⟨hsystem, hhyprland, hnotifications, hlauncher, hcalendar, hweather, happearance,
    hresources, hutilities⟩

/-- Where the capabilities of the system come from. -/
structure SystemAssembled (states : StateMap V) (system : DesktopSystemSnapshot V) : Prop where
  network : capability states .network = .ok system.network
  bluetooth : capability states .bluetooth = .ok system.bluetooth
  audio : capability states .audio = .ok system.audio
  media : capability states .media = .ok system.media
  battery : capability states .battery = .ok system.battery
  brightness : capability states .brightness = .ok system.brightness
  nightLight : capability states .nightLight = .ok system.nightLight
  power : capability states .power = .ok system.power
  osd : capability states .osd = .ok system.osd
  lock : capability states .lock = .ok system.lock

theorem systemAssembled_of_ok {system : DesktopSystemSnapshot V}
    (h : systemSnapshot states = .ok system) : SystemAssembled states system := by
  obtain ⟨network, hnetwork, h⟩ := except_bind_ok h
  obtain ⟨bluetooth, hbluetooth, h⟩ := except_bind_ok h
  obtain ⟨audio, haudio, h⟩ := except_bind_ok h
  obtain ⟨media, hmedia, h⟩ := except_bind_ok h
  obtain ⟨battery, hbattery, h⟩ := except_bind_ok h
  obtain ⟨brightness, hbrightness, h⟩ := except_bind_ok h
  obtain ⟨nightLight, hnightLight, h⟩ := except_bind_ok h
  obtain ⟨power, hpower, h⟩ := except_bind_ok h
  obtain ⟨osd, hosd, h⟩ := except_bind_ok h
  obtain ⟨lock, hlock, h⟩ := except_bind_ok h
  cases h
  exact ⟨hnetwork, hbluetooth, haudio, hmedia, hbattery, hbrightness, hnightLight, hpower, hosd,
    hlock⟩

/-- Where the utilities come from. -/
structure UtilitiesAssembled (states : StateMap V) (utilities : DesktopUtilitySnapshot V) :
    Prop where
  tray : capability states .tray = .ok utilities.trayItems
  clipboard : capability states .clipboard = .ok utilities.clipboardEntries
  recording : capability states .recording = .ok utilities.recording
  idleInhibit : capability states .idleInhibit = .ok utilities.idleInhibited
  gameMode : capability states .gameMode = .ok utilities.gameMode
  screenshot : availabilityOf states .screenshot = .ok utilities.screenshot
  colorPicker : availabilityOf states .colorPicker = .ok utilities.colorPicker

theorem utilitiesAssembled_of_ok {utilities : DesktopUtilitySnapshot V}
    (h : utilitiesSnapshot states = .ok utilities) : UtilitiesAssembled states utilities := by
  obtain ⟨tray, htray, h⟩ := except_bind_ok h
  obtain ⟨clipboard, hclipboard, h⟩ := except_bind_ok h
  obtain ⟨recording, hrecording, h⟩ := except_bind_ok h
  obtain ⟨idleInhibit, hidle, h⟩ := except_bind_ok h
  obtain ⟨gameMode, hgame, h⟩ := except_bind_ok h
  obtain ⟨screenshot, hscreenshot, h⟩ := except_bind_ok h
  obtain ⟨colorPicker, hpicker, h⟩ := except_bind_ok h
  cases h
  exact ⟨htray, hclipboard, hrecording, hidle, hgame, hscreenshot, hpicker⟩

section SameState

variable {domain : DesktopDomainId}

theorem stateOf_congr (h : states domain = states' domain) :
    stateOf states domain = stateOf states' domain := by
  unfold stateOf
  rw [h]

theorem capability_congr (h : states domain = states' domain) :
    capability states domain = capability states' domain := by
  unfold capability
  rw [stateOf_congr h]

theorem availabilityOf_congr (h : states domain = states' domain) :
    availabilityOf states domain = availabilityOf states' domain := by
  unfold availabilityOf
  rw [stateOf_congr h]

theorem producedSnapshot_congr (h : states domain = states' domain) (absent : V domain) :
    producedSnapshot states domain absent = producedSnapshot states' domain absent := by
  unfold producedSnapshot
  rw [stateOf_congr h]

theorem notificationsSnapshot_congr (h : states .notifications = states' .notifications) :
    notificationsSnapshot sdk states = notificationsSnapshot sdk states' := by
  unfold notificationsSnapshot
  rw [stateOf_congr h]

/-- Two functions that agree give the same result. -/
theorem ok_unique {α : Type} {x y : Except IoError α} {value value' : α} (h : x = y)
    (hx : x = .ok value) (hy : y = .ok value') : value = value' := by
  rw [h, hy] at hx
  exact (Except.ok.inj hx).symm

/-- The place of a domain depends on the state of that domain only. -/
theorem domainUpdate_congr (ha : assembleFields sdk states = .ok a)
    (hb : assembleFields sdk states' = .ok b) (h : states domain = states' domain) :
    domainUpdate domain a = domainUpdate domain b := by
  have ha := assembled_of_ok ha
  have hb := assembled_of_ok hb
  have hsa := systemAssembled_of_ok ha.system
  have hsb := systemAssembled_of_ok hb.system
  have hua := utilitiesAssembled_of_ok ha.utilities
  have hub := utilitiesAssembled_of_ok hb.utilities
  cases domain <;> simp only [domainUpdate]
  case network => rw [ok_unique (capability_congr h) hsa.network hsb.network]
  case bluetooth => rw [ok_unique (capability_congr h) hsa.bluetooth hsb.bluetooth]
  case audio => rw [ok_unique (capability_congr h) hsa.audio hsb.audio]
  case media => rw [ok_unique (capability_congr h) hsa.media hsb.media]
  case battery => rw [ok_unique (capability_congr h) hsa.battery hsb.battery]
  case brightness => rw [ok_unique (capability_congr h) hsa.brightness hsb.brightness]
  case nightLight => rw [ok_unique (capability_congr h) hsa.nightLight hsb.nightLight]
  case power => rw [ok_unique (capability_congr h) hsa.power hsb.power]
  case osd => rw [ok_unique (capability_congr h) hsa.osd hsb.osd]
  case lock => rw [ok_unique (capability_congr h) hsa.lock hsb.lock]
  case hyprland => rw [ok_unique (capability_congr h) ha.hyprland hb.hyprland]
  case notifications =>
    rw [ok_unique (notificationsSnapshot_congr h) ha.notifications hb.notifications]
  case launcher => rw [ok_unique (producedSnapshot_congr h _) ha.launcher hb.launcher]
  case calendar => rw [ok_unique (producedSnapshot_congr h _) ha.calendar hb.calendar]
  case weather => rw [ok_unique (producedSnapshot_congr h _) ha.weather hb.weather]
  case appearance => rw [ok_unique (producedSnapshot_congr h _) ha.appearance hb.appearance]
  case resources => rw [ok_unique (producedSnapshot_congr h _) ha.resources hb.resources]
  case tray => rw [ok_unique (capability_congr h) hua.tray hub.tray]
  case clipboard => rw [ok_unique (capability_congr h) hua.clipboard hub.clipboard]
  case recording => rw [ok_unique (capability_congr h) hua.recording hub.recording]
  case idleInhibit => rw [ok_unique (capability_congr h) hua.idleInhibit hub.idleInhibit]
  case gameMode => rw [ok_unique (capability_congr h) hua.gameMode hub.gameMode]
  case screenshot => rw [ok_unique (availabilityOf_congr h) hua.screenshot hub.screenshot]
  case colorPicker => rw [ok_unique (availabilityOf_congr h) hua.colorPicker hub.colorPicker]

end SameState

theorem assembleFields_of_assemble (h : assemble sdk states = .ok a) :
    assembleFields sdk states = .ok a := by
  obtain ⟨_, -, h⟩ := except_bind_ok h
  obtain ⟨snapshot, hsnapshot, h⟩ := except_bind_ok h
  obtain ⟨_, -, h⟩ := except_bind_ok h
  cases h
  exact hsnapshot

/-- After a change of one domain its update turns the old snapshot into the new one. -/
theorem assemble_insert {domain : DesktopDomainId} {state : DesktopDomainState V}
    (ha : assemble sdk states = .ok a) (hb : assemble sdk (states.insert domain state) = .ok b) :
    b = a.applyUpdate (domainUpdate domain b) := by
  refine snapshot_ext fun other => ?_
  by_cases hother : other = domain
  · subst hother
    exact (domainUpdate_applyUpdate_self other).symm
  · rw [domainUpdate_applyUpdate_of_ne hother]
    refine domainUpdate_congr (assembleFields_of_assemble hb) (assembleFields_of_assemble ha) ?_
    exact Function.update_of_ne hother _ _

end Assembly

end Desktop
end SleepySession
