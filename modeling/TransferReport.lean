import TransferReport.Main
import TransferReport.Proofs.Number.Nearest
import TransferReport.Proofs.Number.ShortestDecimal
import TransferReport.Proofs.Number.Ties
import TransferReport.Proofs.Number.Duration
import TransferReport.Proofs.Size.Scaled
import TransferReport.Proofs.Size.ExactText
import TransferReport.Proofs.Size.Amount
import TransferReport.Proofs.Size.Reading
import TransferReport.Proofs.Size.Quantity
import TransferReport.Proofs.Size.Faults
import TransferReport.Proofs.Size.Range
import TransferReport.Proofs.Console.Transition
import TransferReport.Proofs.Console.Bookkeeping
import TransferReport.Proofs.Console.Tidy
import TransferReport.Proofs.Console.Leftover
import TransferReport.Proofs.Console.Shown
import TransferReport.Proofs.Console.Frame
import TransferReport.Proofs.Console.FailedStart
import TransferReport.Proofs.Console.Independence
import TransferReport.Proofs.Console.SizeText
import TransferReport.Proofs.Console.Plain
import TransferReport.Proofs.Console.Crossing
import TransferReport.Proofs.Reporter.Agreement
import TransferReport.Proofs.Reporter.Ordinary
import TransferReport.Proofs.Size.Progress
import TransferReport.Proofs.Replay.Chunks
import TransferReport.Proofs.Reporter.Locale
import TransferReport.Proofs.Message.Throughput
import TransferReport.Proofs.Console.Ending
import TransferReport.Proofs.Size.Scaling
import TransferReport.Proofs.Terminal.Verbatim
import TransferReport.Proofs.Reporter.Threshold
import TransferReport.Proofs.Size.Accuracy
import TransferReport.Proofs.Text.Letters
import TransferReport.Proofs.Number.Halves
import TransferReport.Proofs.Size.UnitName
import TransferReport.Proofs.Size.Doubles
