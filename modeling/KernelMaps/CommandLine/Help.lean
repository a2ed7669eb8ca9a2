import KernelMaps.CommandLine.Grammar

/-!
# Help

The text that tells how to use the program, and what is said about a refused command line.
-/

namespace KernelMaps
namespace CommandLine

/-- Fill a text up with blanks to a width. -/
def padded (width : Nat) (text : String) : String :=
  text ++ String.ofList (List.replicate (width - text.length) ' ')

/-- The line for one command. -/
def helpLine (label about : String) : String :=
  "  " ++ padded 12 label ++ about

/-- How to use the program. -/
def usage : String :=
  String.intercalate "\n"
    (["Inspect and manage eBPF maps", "", "Usage: bpfmap [COMMAND]", "", "Commands:"] ++
      Verb.all.map (fun verb => helpLine verb.label verb.about) ++
      [helpLine "help" "Print this message or the help of the given subcommand(s)", "",
        "Options:", "  -h, --help  Print help"])

/-- What is said about a refused command line. -/
def Refusal.message : Refusal → String
  | displayHelp => usage
  | refusal => "error: " ++ refusal.label ++ "\n\nFor more information, try '--help'."

end CommandLine
end KernelMaps
