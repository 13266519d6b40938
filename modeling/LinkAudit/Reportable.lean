import LinkAudit.LinkMap
import LinkAudit.Mangled.Kind
import LinkAudit.Noise

/-!
Which symbols and objects a report is about. A symbol is reportable if its name is a bracketed
method, or a mangled name with an accepted kind code in an accepted module, and no noise. An
object is foreign if it comes from the system, from a dependency or from the linker.
-/

namespace LinkAudit

/-- Whether a name is that of a bracketed Objective-C method with something between the brackets. -/
def isMethodName : Text → Bool
  | sign :: '[' :: rest =>
    (sign = '-' || sign = '+') &&
      match Text.position? rest [']'] with
      | some n => 0 < n
      | none => false
  | _ => false

/-- Whether the mangled part of a name has one of the kinds and, where modules are given, belongs to
one of them. -/
def isDeclarationIn (kinds modules : List Text) (name : Text) : Bool :=
  match Mangled.canonical? name with
  | none => false
  | some canonical =>
    let mangled := Mangled.ofText canonical
    match mangled.kindSource? with
    | none => false
    | some source =>
      let kind := (Mangled.kindCode source).upper
      !kind.isEmpty && kinds.contains kind &&
        (modules.isEmpty || mangled.module?.any modules.contains)

/-- Whether a linker name is that of a declaration to report. No modules stand for all modules. -/
def isReportable (kinds modules : List Text) (name : Text) : Bool :=
  !Noise.inName name && (isMethodName name || isDeclarationIn kinds modules name)

def foreignPlaces : List Text :=
  [".framework/", "/Toolchains/", "/Platforms/", "SourcePackages/checkouts",
   "/Pods/"].map String.toList

def foreignMarks : List Text := [".dylib", "linker synthesized"].map String.toList

def ObjectFile.isForeign (o : ObjectFile) : Bool :=
  Noise.mentionsAny o.path foreignPlaces || Noise.mentionsAny o.path.lower foreignMarks

/-- Whether nothing is reported about an object, which holds also of one that is missing. -/
def isIgnored : Option ObjectFile → Bool
  | none => true
  | some o => o.isForeign

end LinkAudit
