import PrismaZod.Disk.Setup
import PrismaZod.Main
import PrismaZod.Proofs.Plan.Apart
import PrismaZod.Proofs.Plan.Flags
import PrismaZod.Proofs.Plan.Resolution
import PrismaZod.Proofs.Protocol.Agreement
import PrismaZod.Proofs.Protocol.ReadBack
import PrismaZod.Proofs.Run.History
import PrismaZod.Proofs.Source.Datamodel
import PrismaZod.Proofs.Disk.Repetition
import PrismaZod.Proofs.Run.Repetition
import PrismaZod.Proofs.Run.Report
import PrismaZod.Proofs.Protocol.Composition
import PrismaZod.Proofs.Json.Grammar
import PrismaZod.Proofs.Datamodel.Grammar
import PrismaZod.Proofs.Schema.Occurrences
import PrismaZod.Proofs.Run.Warnings
import PrismaZod.Proofs.Schema.Fitting
import PrismaZod.Proofs.Decimal.Nearest
import PrismaZod.Proofs.Source.BigInt
import PrismaZod.Proofs.Datamodel.Shapes
import PrismaZod.Proofs.Schema.Layers
import PrismaZod.Proofs.Disk.Entering
import PrismaZod.Proofs.Run.Containment
import PrismaZod.Proofs.Json.Leeway
import PrismaZod.Proofs.Datamodel.Leeway
import PrismaZod.Proofs.Text.Trimming
import PrismaZod.Proofs.Config.Assignment
import PrismaZod.Proofs.Config.Precedence
import PrismaZod.Proofs.Protocol.Layout
