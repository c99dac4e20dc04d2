import LitTiles.Main
import LitTiles.Record.Canonical
import LitTiles.Proofs.Backend.Trail
import LitTiles.Proofs.Backend.Contract
import LitTiles.Proofs.Backend.Simulation
import LitTiles.Proofs.Frame.Command
import LitTiles.Proofs.Lighting.Query
import LitTiles.Proofs.Batch.Ownership
import LitTiles.Proofs.Batch.Upkeep
import LitTiles.Proofs.Batch.Runs
import LitTiles.Proofs.Renderer.Course
import LitTiles.Proofs.Renderer.Buffers
import LitTiles.Proofs.Batch.Operations
import LitTiles.Proofs.Batch.Revision
import LitTiles.Proofs.Wgpu.Quiet
import LitTiles.Proofs.Wgpu.SurfaceTexture
import LitTiles.Proofs.Wgpu.Holding
import LitTiles.Proofs.Renderer.Resizing
import LitTiles.Proofs.Lighting.Chain
import LitTiles.Proofs.Batch.Syncing
import LitTiles.Proofs.Renderer.Stacking
import LitTiles.Proofs.Renderer.Frame
import LitTiles.Proofs.Renderer.Settled
import LitTiles.Proofs.Renderer.FrameLaw
import LitTiles.Proofs.Batch.Repair
import LitTiles.Proofs.Renderer.Recovery
import LitTiles.Proofs.Effect.Resolution
import LitTiles.Proofs.Renderer.TargetSize
import LitTiles.Proofs.Scalar.Packing
import LitTiles.Proofs.Scalar.Arithmetic
import LitTiles.Proofs.Scalar.Order
import LitTiles.Proofs.Geometry.Rect
import LitTiles.Proofs.Lighting.Cells
import LitTiles.Proofs.Lighting.BroadPhase
import LitTiles.Proofs.Program.StructureLayout
import LitTiles.Proofs.Program.UniformTransfer
import LitTiles.Proofs.Effect.Words
import LitTiles.Proofs.Effect.Parentheses
import LitTiles.Proofs.Effect.Calls
import LitTiles.Proofs.Effect.References
import LitTiles.Proofs.Effect.Emission
import LitTiles.Proofs.Effect.Components
import LitTiles.Proofs.Effect.Binding
import LitTiles.Proofs.Effect.Spelling
import LitTiles.Proofs.Effect.Slices
import LitTiles.Proofs.Effect.Retention
import LitTiles.Proofs.Gl.Runs
import LitTiles.Proofs.Gl.Objects
import LitTiles.Proofs.Gl.Making
import LitTiles.Proofs.Gl.Calls
import LitTiles.Proofs.Gl.Custody
import LitTiles.Proofs.Gl.Lifetimes
import LitTiles.Proofs.Gl.Failures
import LitTiles.Proofs.Backend.Drawing
import LitTiles.Proofs.Gl.Machine
import LitTiles.Proofs.Gl.Drawing
import LitTiles.Proofs.Gl.Quiet
import LitTiles.Proofs.Gl.Storage
import LitTiles.Proofs.Gl.Leftovers
import LitTiles.Proofs.Gl.Flawless
import LitTiles.Proofs.Wgpu.Runs
import LitTiles.Proofs.Wgpu.Recorder
import LitTiles.Proofs.Wgpu.Drawing
import LitTiles.Proofs.Wgpu.Flawless
import LitTiles.Proofs.Backend.Agreement
import LitTiles.Proofs.Backend.Addressing
import LitTiles.Proofs.Backend.Shelf
import LitTiles.Proofs.Frame.Registration
import LitTiles.Proofs.Wgpu.Arena
import LitTiles.Proofs.Wgpu.Footage
import LitTiles.Proofs.Wgpu.Frames
import LitTiles.Proofs.Wgpu.Stock
import LitTiles.Proofs.Wgpu.Views
import LitTiles.Proofs.Window.Callbacks
import LitTiles.Proofs.Batch.RunLength
import LitTiles.Proofs.Effect.PackedBlock
import LitTiles.Proofs.Effect.Blocks
import LitTiles.Proofs.Batch.Deeds
import LitTiles.Proofs.Batch.Eviction
import LitTiles.Proofs.Batch.Visiting
import LitTiles.Proofs.Batch.UploadPolicy
import LitTiles.Proofs.Batch.Edits
import LitTiles.Proofs.Batch.Detours
import LitTiles.Proofs.Batch.KeysAndSlots
import LitTiles.Proofs.Gl.Attachments
import LitTiles.Proofs.Backend.Channels
import LitTiles.Proofs.Backend.Numbers
