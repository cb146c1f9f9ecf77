import TypeSlots.Inspection
import TypeSlots.Session
import TypeSlots.Text.Quoted.Reader
import TypeSlots.Proofs.Dispatch.Comparisons
import TypeSlots.Proofs.Distinct.FirstOccurrences
import TypeSlots.Proofs.Fault.Report
import TypeSlots.Proofs.Lookup.RowOrder
import TypeSlots.Proofs.Records.Decoding
import TypeSlots.Proofs.Session.LatestWrite
import TypeSlots.Proofs.Slot.Stems
import TypeSlots.Proofs.Target.MajorOnly
import TypeSlots.Proofs.Target.Refusal
import TypeSlots.Proofs.Version.Sorting
