import LinkAudit.Text.Basic

/-!
What the command line says about itself.
-/

namespace LinkAudit.CommandLine

def programName : Text := "symprune".toList

def versionLine : Text := programName ++ " 0.1.0".toList

def helpLines : List Text :=
  ["usage: symprune [-h] [--debug DEBUG] [--release RELEASE]",
   "                [--project-root PROJECT_ROOT] [--out OUT] [--demangle]",
   "                [--no-demangle] [--group-limit GROUP_LIMIT]",
   "                [--source-prefix SOURCE_PREFIX] [--include-pods] [--verbose]",
   "                [--version]",
   "                [LINKMAP ...]",
   "",
   "Compare the link maps of a debug and a release build and list application",
   "symbols and files only the debug build links.",
   "",
   "positional arguments:",
   "  LINKMAP               Debug then release link map",
   "",
   "options:",
   "  -h, --help            show this help message and exit",
   "  --debug DEBUG, -d DEBUG",
   "                        Debug build link map (env: DEBUG_LINKMAP)",
   "  --release RELEASE, -r RELEASE",
   "                        Release build link map (env: RELEASE_LINKMAP)",
   "  --project-root PROJECT_ROOT, -p PROJECT_ROOT",
   "                        Project root used to locate sources (env: PROJECT_DIR)",
   "  --out OUT             Also write the report to this file (env:",
   "                        DEAD_CODE_OUTPUT)",
   "  --demangle            Demangle symbols with swift-demangle (default)",
   "  --no-demangle         Skip demangling (env: DEAD_CODE_DEMANGLE=0)",
   "  --group-limit GROUP_LIMIT",
   "                        Maximum number of file groups to report (env:",
   "                        DEAD_CODE_GROUP_LIMIT)",
   "  --source-prefix SOURCE_PREFIX",
   "                        Relative path to probe under the project root",
   "                        (repeatable)",
   "  --include-pods        Index sources under Pods/ as well",
   "  --verbose             Verbose logging to stderr",
   "  --version             show program's version number and exit"].map String.toList

end LinkAudit.CommandLine
