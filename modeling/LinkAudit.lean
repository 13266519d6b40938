import LinkAudit.Main
import LinkAudit.Proofs.Comparison.Covered
import LinkAudit.Proofs.Comparison.Shared
import LinkAudit.Proofs.Text.Stretch
import LinkAudit.Proofs.Mangled.Spelling
import LinkAudit.Proofs.Mangled.Writing
import LinkAudit.Proofs.Text.Split
import LinkAudit.Proofs.LinkMap.Entry
import LinkAudit.Proofs.LinkMap.Listing
import LinkAudit.Proofs.Comparison.Duplicates
import LinkAudit.Proofs.LinkMap.Relisting
import LinkAudit.Proofs.LinkMap.Unbroken
import LinkAudit.Proofs.Source.Stem
import LinkAudit.Proofs.Comparison.Mention
import LinkAudit.Proofs.Comparison.Renumbering
import LinkAudit.Proofs.Comparison.Relisting
import LinkAudit.Proofs.Comparison.Reordering
import LinkAudit.Proofs.Comparison.Demangling
import LinkAudit.Proofs.Comparison.Attribution
import LinkAudit.Proofs.Text.Utf8
import LinkAudit.Proofs.Demangler.Batch
import LinkAudit.Proofs.FileTree.Update
import LinkAudit.Proofs.Report
import LinkAudit.Proofs.CommandLine.Run
import LinkAudit.Proofs.Text.Lines
import LinkAudit.Proofs.Text.Trim
import LinkAudit.Proofs.Demangler.Output
import LinkAudit.Proofs.Text.Counter
import LinkAudit.Proofs.Mangled.Counter
import LinkAudit.Proofs.Reportable.Counter
import LinkAudit.Proofs.LinkMap.LineEnds
import LinkAudit.Proofs.Comparison.Naming
import LinkAudit.Proofs.Source.Literal
import LinkAudit.Proofs.Demangled
import LinkAudit.Proofs.Demangled.Extension
import LinkAudit.Proofs.Report.Groups
import LinkAudit.Proofs.Report.Unused
import LinkAudit.Proofs.Mangled.Truncation
import LinkAudit.Proofs.Modules
import LinkAudit.Proofs.Demangled.Qualifier
import LinkAudit.Proofs.Comparison.Counts
import LinkAudit.Proofs.Path
import LinkAudit.Proofs.FileTree.Order
import LinkAudit.Proofs.Source.Index
import LinkAudit.Proofs.Source.Finder
import LinkAudit.Proofs.Demangler.Calls
import LinkAudit.Proofs.Mangled.Kind
import LinkAudit.Proofs.Report.Bytes
import LinkAudit.Proofs.Report.Limit
import LinkAudit.Proofs.Source.StemChain
