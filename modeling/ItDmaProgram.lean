import ItDmaProgram.Bytes
import ItDmaProgram.Codec
import ItDmaProgram.Builder
import ItDmaProgram.Linker
import ItDmaProgram.Run
import ItDmaProgram.Layout
import ItDmaProgram.Decode
import ItDmaProgram.Ring
import ItDmaProgram.Packets
import ItDmaProgram.Encoding
import ItDmaProgram.Regions
import ItDmaProgram.Schedule
import ItDmaProgram.Validate
import ItDmaProgram.Diagnoser
import ItDmaProgram.LogScan
import ItDmaProgram.Analyzer
import ItDmaProgram.Healthy
import ItDmaProgram.Trace
import ItDmaProgram.Readback
import ItDmaProgram.Controller
