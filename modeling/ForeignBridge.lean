import ForeignBridge.Session.Run
import ForeignBridge.Settings.Decode
import ForeignBridge.Proofs.Crossing.Tidy
import ForeignBridge.Proofs.Crossing.Ownership
import ForeignBridge.Proofs.Crossing.Conversion
import ForeignBridge.Proofs.Crossing.Service
import ForeignBridge.Proofs.Crossing.Balance
import ForeignBridge.Proofs.Crossing.Vigilance
import ForeignBridge.Proofs.Crossing.Reporting
import ForeignBridge.Proofs.Heap.Conservation
import ForeignBridge.Proofs.Heap.Entries
import ForeignBridge.Proofs.Simulation.Honesty
import ForeignBridge.Proofs.Simulation.Conservation
import ForeignBridge.Proofs.Session.Conservation
import ForeignBridge.Proofs.Crossing.Success
import ForeignBridge.Proofs.Heap.Lasting
import ForeignBridge.Proofs.Number.Rounding
import ForeignBridge.Proofs.RoundTrip.Normal
import ForeignBridge.Proofs.Simulation.Requests
import ForeignBridge.Proofs.Text.Utf8
import ForeignBridge.Proofs.RoundTrip.Unpacking
import ForeignBridge.Proofs.RoundTrip.Packing
import ForeignBridge.Proofs.RoundTrip.Rectangles
import ForeignBridge.Proofs.RoundTrip.Sequences
import ForeignBridge.Proofs.Session.RoundTrip
import ForeignBridge.Proofs.Heap.Reclamation
import ForeignBridge.Proofs.Session.Reclamation
import ForeignBridge.Proofs.Simulation.Invariants
import ForeignBridge.Proofs.Crossing.Confinement
import ForeignBridge.Proofs.Crossing.Origin
import ForeignBridge.Proofs.Session.Invariants
import ForeignBridge.Proofs.Session.Gates
import ForeignBridge.Proofs.Session.Scenes
import ForeignBridge.Proofs.Session.Lifecycle
import ForeignBridge.Proofs.Heap.Undoing
import ForeignBridge.Proofs.Crossing.Discretion
import ForeignBridge.Proofs.Simulation.Undoing
import ForeignBridge.Proofs.Session.Undoing
import ForeignBridge.Proofs.Heap.Lending
import ForeignBridge.Proofs.Reading.Classification
import ForeignBridge.Proofs.Reading.Requests
import ForeignBridge.Proofs.Reading.Plain
import ForeignBridge.Proofs.Reading.Rectangles
import ForeignBridge.Proofs.Reading.Sequences
import ForeignBridge.Proofs.Session.Classification
import ForeignBridge.Proofs.Reading.Settled
import ForeignBridge.Proofs.Session.Settled
import ForeignBridge.Proofs.Crossing.Transcript
import ForeignBridge.Proofs.Crossing.Custody
import ForeignBridge.Proofs.Crossing.Custodian
import ForeignBridge.Proofs.Crossing.Entrusted
import ForeignBridge.Proofs.Crossing.Estrangement
import ForeignBridge.Proofs.Crossing.Operands
import ForeignBridge.Proofs.Crossing.Abstinence
import ForeignBridge.Proofs.Crossing.Rationing
import ForeignBridge.Proofs.Session.Apart
import ForeignBridge.Proofs.Session.Isolation
import ForeignBridge.Proofs.Simulation.Safety
import ForeignBridge.Proofs.Session.Safety
import ForeignBridge.Proofs.Simulation.Holding
import ForeignBridge.Proofs.Chains.Places
import ForeignBridge.Proofs.Chains.Reading
import ForeignBridge.Proofs.Chains.Writing
import ForeignBridge.Proofs.Session.Chains
import ForeignBridge.Proofs.Chains.Following
import ForeignBridge.Proofs.Heap.Acquiring
import ForeignBridge.Proofs.Simulation.Contract
import ForeignBridge.Proofs.Building.Encoding
import ForeignBridge.Proofs.Building.Making
import ForeignBridge.Proofs.Building.Simulated
import ForeignBridge.Proofs.Reading.Lender
import ForeignBridge.Proofs.RoundTrip.Representing
import ForeignBridge.Proofs.Interpreter.Running
import ForeignBridge.Proofs.Interpreter.Making
import ForeignBridge.Proofs.Interpreter.Lending
import ForeignBridge.Proofs.Interpreter.Representing
import ForeignBridge.Proofs.Interpreter.Bare
import ForeignBridge.Proofs.Session.Serving
import ForeignBridge.Proofs.Session.Interpreted
import ForeignBridge.Proofs.Heap.Covering
import ForeignBridge.Proofs.Fields.Store
import ForeignBridge.Proofs.Fields.Simulated
import ForeignBridge.Proofs.Fields.Interpreted
import ForeignBridge.Proofs.Session.Fields
import ForeignBridge.Proofs.Heap.Deferring
import ForeignBridge.Proofs.Simulation.Deferring
import ForeignBridge.Proofs.Chains.Factoring
import ForeignBridge.Proofs.Session.Facing
import ForeignBridge.Proofs.Session.Factoring
import ForeignBridge.Proofs.Names.Attributes
import ForeignBridge.Proofs.Names.Resolving
import ForeignBridge.Proofs.Chains.Agreeing
import ForeignBridge.Proofs.Session.Agreement
import ForeignBridge.Proofs.Number.Whole
import ForeignBridge.Proofs.Crossing.Keys
import ForeignBridge.Proofs.Simulation.Onward
import ForeignBridge.Proofs.Chains.Ending
import ForeignBridge.Proofs.Chains.Positions
import ForeignBridge.Proofs.Session.Positions
import ForeignBridge.Proofs.Number.Words
import ForeignBridge.Proofs.Number.Patterns
import ForeignBridge.Proofs.Number.Exactness
import ForeignBridge.Proofs.Crossing.Integers
import ForeignBridge.Proofs.Text.WellFormed
import ForeignBridge.Proofs.Text.Utf16
import ForeignBridge.Proofs.Reading.Texts
import ForeignBridge.Proofs.Matrix.Indices
import ForeignBridge.Proofs.Matrix.Views
import ForeignBridge.Proofs.Crossing.Matrices
import ForeignBridge.Proofs.Text.Order
import ForeignBridge.Proofs.Names.Public
import ForeignBridge.Proofs.Names.Listing
import ForeignBridge.Proofs.Session.Listing
import ForeignBridge.Proofs.Simulation.Slots
import ForeignBridge.Proofs.Interpreter.Words
import ForeignBridge.Proofs.Simulation.Enduring
import ForeignBridge.Proofs.Simulation.Moments
import ForeignBridge.Proofs.Session.Standing
import ForeignBridge.Proofs.Session.Moments
import ForeignBridge.Proofs.Session.Places
import ForeignBridge.Proofs.Session.Estates
import ForeignBridge.Proofs.Session.Identity
import ForeignBridge.Proofs.Number.Nearest
import ForeignBridge.Proofs.Number.Rerounding
import ForeignBridge.Proofs.Number.Decimal
import ForeignBridge.Proofs.Number.Overflow
import ForeignBridge.Proofs.Simulation.Containers
import ForeignBridge.Proofs.Simulation.Cascade
import ForeignBridge.Proofs.Crossing.Echo
import ForeignBridge.Proofs.Session.Echo
