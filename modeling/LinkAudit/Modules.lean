import LinkAudit.Reportable

/-!
Two readings of which modules a build is about: those that the project's own objects have symbols
of, and those that are common enough among reported names to be left out when the names are shown.
-/

namespace LinkAudit.Modules

def system : List Text :=
  ["ARKit", "AVFoundation", "AppKit", "AuthenticationServices", "CloudKit", "Combine", "Contacts",
   "ContactsUI", "CoreData", "CoreGraphics", "CoreImage", "CoreLocation", "CoreMedia",
   "CoreMotion", "CoreTelephony", "DeveloperToolsSupport", "Foundation", "GameKit", "GameplayKit",
   "Intents", "MapKit", "Metal", "MetalKit", "Network", "PDFKit", "RealityKit", "ReplayKit",
   "SceneKit", "SpriteKit", "StoreKit", "Swift", "SwiftUI", "UIKit", "UserNotifications", "Vision",
   "WebKit", "WidgetKit"].map String.toList

/-- The modules of symbols in the project's own objects, in increasing order. -/
def ofProject (m : LinkMap) : List Text :=
  Text.distinct ((m.symbols.filter fun s => !isIgnored (m.objectOf? s)).filterMap fun s =>
    (moduleOf? s.name).filter fun home => !system.contains home)

def leastCount : Nat := 10

/-- A module is left out if it has at least one in this many names. -/
def shareDivisor : Nat := 20

def runtimeBeginning : Text := "swift".toList

def isAlwaysShown (home : Text) : Bool :=
  system.contains home || "__".toList.isPrefixOf home || runtimeBeginning.isPrefixOf home.lower

def threshold (total : Nat) : Nat := max leastCount (total / shareDivisor)

/-- The modules common among the names, in increasing order. Every name counts towards the total. -/
def common (names : List Text) : List Text :=
  let homes := names.filterMap moduleOf?
  (Text.distinct homes).filter fun home =>
    threshold names.length ≤ homes.count home && !isAlwaysShown home

end LinkAudit.Modules
