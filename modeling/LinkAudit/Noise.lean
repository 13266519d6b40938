import LinkAudit.Text.Case

/-!
Words that mark names as the work of a compiler, a linker or a runtime rather than of a
programmer: in linker names, and in the texts that a demangler gives for them. Both kinds of words
are looked for in the lowered text unless they are said to be looked for as they stand.
-/

namespace LinkAudit.Noise

def words : List Text :=
  ["symbolic", "literal string", "___unnamed", "_reflection_descriptor", "__swift5", "__swift4",
   "__swift3", "_objc_protocol_$_", "_objc_$_protocol_refs_", "_objc_label_protocol_$_",
   "_objc_class_$_", "_objc_metaclass_$_", "get_witness_table", "get_underlying", "witness_table",
   ".str.", "l_.str", "previewfmf_", "previewregistry", "previewprovider",
   "l_keypath_get_arg_layout", "l_keypath_arg_init", "withmutation", "shouldnotifyobservers",
   "block_copy_helper", "block_destroy_helper", "block_descriptor", "keypath_get_selector",
   "swift_get_extra_inhabitant_index", "_swift_store_extra_inhabitant_index",
   "swift_store_extra_inhabitant_index", "associated conformance",
   "_resumecheckedthrowingcontinuation", "fmu_"].map String.toList

def beginnings : List Text :=
  ["_objc_", "__swift_force_load", "__swift_runtime", "__swift_instantiate", "___swift_", "l_.str",
   "l_metadata", "l_objectdestroy", "l_get_witness_table", "l_get_underlying", "l_keypath",
   "l_objc"].map String.toList

def deferMark : Text := "$deferl_".toList

def resumeEnding : Text := ".resume".toList

def resumeMark : Text := "mn.resume".toList

/-- Containers that the user-interface framework wraps around views, looked for as they stand. -/
def viewContainers : List Text :=
  ["SwiftUI15ModifiedContent", "SwiftUI17_ConditionalContent"].map String.toList

def privateMark : Text := "33_".toList

def unwindTable : Text := ".eh_frame".toList

/-- The entries of an unwind table, looked for in the raised name. -/
def unwindEntries : List Text := ["FDE", "CFI"].map String.toList

def relocations : List Text :=
  ["$got", "@got", ".got", " got", "got[", "got_"].map String.toList

def demangledWords : List Text :=
  ["protocol witness", "dispatch thunk", "reabstraction thunk", "partial apply forwarder",
   "partial apply", "implicit closure #", "closure #", "value witness", "witness table",
   "suspend resume partial function", "outlined copy", "outlined consume", "outlined assign",
   "outlined init", "outlined destroy", "type metadata accessor", "type metadata completion",
   "associated conformance", "specialized globalinit", "one-time initialization function",
   "variable initialization expression", "materialize for set", "key path setter",
   "key path getter", "heap destroyer", "heap assignor", "destroyer", "assignor", "destructor",
   ".__derived_enum_equals", "metadata instantiation cache",
   "protocol conformance descriptor runtime record", "protocol conformance descriptor for",
   "property descriptor for", "type metadata for", "nominal type descriptor runtime record",
   "opaque type descriptor runtime record", "opaque type descriptor for",
   "lazy cache variable for type metadata", "demangling cache variable for", "reflection metadata",
   "anonymous descriptor", "associated type witness table accessor", "base witness table accessor",
   "method descriptor", ".modify :", "default argument", "defaultvalue", "default value",
   "async function pointer", "property wrapper backing initializer", "previewfmf_",
   "previewregistry", "previewprovider", "type metadata instantiation function",
   "l_keypath_get_arg_layout", "l_keypath_arg_init", "withmutation", "shouldnotifyobservers",
   "__allocating_init", "observation", "accessormetadata", "fmu_"].map String.toList

def demangledContainers : List Text :=
  ["(extension in SwiftUI)", "SwiftUI.ModifiedContent", "SwiftUI.ViewBuilder",
   "SwiftUI.TupleView"].map String.toList

def mentionsAny (t : Text) (needles : List Text) : Bool := needles.any t.mentions

def inName (name : Text) : Bool :=
  let lowered := name.lower
  mentionsAny lowered words ||
    beginnings.any (·.isPrefixOf lowered) ||
    lowered.mentions deferMark ||
    resumeEnding.isSuffixOf lowered ||
    lowered.mentions resumeMark ||
    mentionsAny name viewContainers ||
    name.mentions privateMark ||
    (name.mentions unwindTable && mentionsAny name.upper unwindEntries) ||
    mentionsAny lowered relocations

def inDemangled (t : Text) : Bool :=
  mentionsAny t.lower demangledWords || mentionsAny t demangledContainers

end LinkAudit.Noise
